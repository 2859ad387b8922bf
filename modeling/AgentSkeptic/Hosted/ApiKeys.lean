import AgentSkeptic.Hosted.UsageQuota
import AgentSkeptic.Support.KeyedTable

/-!
# API keys of all users

`lib/apiKeyLifecycle.ts`, `lib/apiKeyAuthGateway.ts` and the account routes
`create-key` and `revoke-key`.  A key made by the lifecycle is written to
`api_key_v2` and to the legacy table `api_key`, under one id; the account routes
write the legacy table only; authentication reads `api_key_v2` and, where it has
no row of the key, the legacy table.

Nothing takes a revocation back, so a key that is revoked in every table it has
a row in stays out (`stays_out_iff`).  `revoke-key` does not touch `api_key_v2`:
a key with an active row there still authenticates after it.
-/

namespace AgentSkeptic.Hosted.ApiKeys

open AgentSkeptic.Support

/-! ## Tables -/

/-- `scrypt$salt$hash`. -/
structure KeyHash where
  salt : String
  hash : String
  deriving DecidableEq, Repr

/-- A row of `api_key_v2`. -/
structure KeyV2Row where
  id : String
  userId : String
  label : String
  scopes : List ApiKeyScope
  keyLookupSha256 : String
  keyHash : KeyHash
  status : KeyStatus
  expiresAt : Option ℤ
  revokedAt : Option ℤ
  rotatedFromKeyId : Option String
  rotatedToKeyId : Option String
  deriving DecidableEq, Repr

/-- A row of `api_key`. -/
structure LegacyKeyRow where
  id : String
  userId : String
  keyLookupSha256 : String
  keyHash : KeyHash
  revokedAt : Option ℤ
  deriving DecidableEq, Repr

structure KeyDb where
  users : String → Option UserRow
  apiKeysV2 : KeyedTable String KeyV2Row KeyV2Row.id
  apiKeys : KeyedTable String LegacyKeyRow LegacyKeyRow.id

/-- What the runtime and the deployment contribute. -/
structure KeyDeployment where
  sha256Hex : String → String
  /-- The text of `scryptSync(plaintext, salt, 64)`. -/
  scrypt : String → String → String
  /-- Whether the index `api_key_v2_active_label_ci_uq` exists: the migration
  creates it, the schema in `db/schema.ts` does not name it. -/
  labelIndex : Bool

/-- What is drawn for a new key: the row's id, the bearer and the salt. -/
structure KeyDraw where
  id : String
  bearer : String
  salt : String

variable (d : KeyDeployment)

def sha256HexApiKeyLookupFingerprint (rawKey : String) : String := d.sha256Hex rawKey

def hashApiKey (plaintext salt : String) : KeyHash := ⟨salt, d.scrypt plaintext salt⟩

def verifyApiKey (plaintext : String) (stored : KeyHash) : Bool :=
  d.scrypt plaintext stored.salt == stored.hash

def uniqueViolation : String := "duplicate key value violates unique constraint"

def foreignKeyViolation : String :=
  "insert or update on table violates foreign key constraint"

def checkViolation : String := "new row for relation violates check constraint"

/-- `char_length(btrim(label)) between 1 and 64`, and one to four scopes. -/
def passesChecks (row : KeyV2Row) : Bool :=
  let trimmed := (row.label.toList.dropWhile (· == ' ')).reverse.dropWhile (· == ' ')
  0 < trimmed.length && trimmed.length ≤ 64 && row.label.length ≤ 64 &&
    0 < row.scopes.length && row.scopes.length ≤ 4

/-- Another active key of the user has the label. -/
def labelTaken (db : KeyDb) (row : KeyV2Row) : Bool :=
  db.apiKeysV2.rows.any fun other =>
    other.userId = row.userId && other.label.toLower = row.label.toLower &&
      other.status = .active

/-- `INSERT INTO api_key_v2`. -/
def insertV2 (db : KeyDb) (row : KeyV2Row) : Except String KeyDb :=
  if !passesChecks row then .error checkViolation
  else if (db.users row.userId).isNone then .error foreignKeyViolation
  else if d.labelIndex && row.status = .active && labelTaken db row then
    .error uniqueViolation
  else if db.apiKeysV2.rows.any fun other =>
      other.keyLookupSha256 = row.keyLookupSha256 then
    .error uniqueViolation
  else
    match db.apiKeysV2.insert? row with
    | none => .error uniqueViolation
    | some apiKeysV2 => .ok { db with apiKeysV2 }

/-- `INSERT INTO api_key`. -/
def insertLegacy (db : KeyDb) (row : LegacyKeyRow) : Except String KeyDb :=
  if (db.users row.userId).isNone then .error foreignKeyViolation
  else if db.apiKeys.rows.any fun other =>
      other.keyLookupSha256 = row.keyLookupSha256 then
    .error uniqueViolation
  else
    match db.apiKeys.insert? row with
    | none => .error uniqueViolation
    | some apiKeys => .ok { db with apiKeys }

/-- The two inserts of a new key: its row and the legacy row of the same id. -/
def insertKey (db : KeyDb) (row : KeyV2Row) : Except String KeyDb := do
  let db ← insertV2 d db row
  insertLegacy db ⟨row.id, row.userId, row.keyLookupSha256, row.keyHash, none⟩

/-- `SET status = 'revoked', revoked_at = now`, and the successor of a rotation. -/
def KeyV2Row.revoke (now : ℤ) (successor : Option String) (row : KeyV2Row) : KeyV2Row :=
  { row with
    status := .revoked
    revokedAt := some now
    rotatedToKeyId := successor.or row.rotatedToKeyId }

def LegacyKeyRow.revoke (now : ℤ) (row : LegacyKeyRow) : LegacyKeyRow :=
  { row with revokedAt := some now }

theorem KeyV2Row.revoke_id (now : ℤ) (successor : Option String) (row : KeyV2Row) :
    (row.revoke now successor).id = row.id := rfl

theorem LegacyKeyRow.revoke_id (now : ℤ) (row : LegacyKeyRow) :
    (row.revoke now).id = row.id := rfl

/-- The two updates that revoke rows. -/
def KeyDb.retire (db : KeyDb) (p : KeyV2Row → Bool) (q : LegacyKeyRow → Bool)
    (now : ℤ) (successor : Option String) : KeyDb :=
  { db with
    apiKeysV2 := db.apiKeysV2.updateWhere p (KeyV2Row.revoke now successor)
      (KeyV2Row.revoke_id now successor)
    apiKeys := db.apiKeys.updateWhere q (LegacyKeyRow.revoke now)
      (LegacyKeyRow.revoke_id now) }

/-! ## The lifecycle -/

structure CreateApiKeyInput where
  label : String
  scopes : List ApiKeyScope
  expiresAt : Option ℤ

def createApiKeyForUser (db : KeyDb) (userId : String) (input : CreateApiKeyInput)
    (draw : KeyDraw) : Except String KeyDb :=
  insertKey d db
    { id := draw.id
      userId
      label := input.label
      scopes := input.scopes
      keyLookupSha256 := sha256HexApiKeyLookupFingerprint d draw.bearer
      keyHash := hashApiKey d draw.bearer draw.salt
      status := .active
      expiresAt := input.expiresAt
      revokedAt := none
      rotatedFromKeyId := none
      rotatedToKeyId := none }

/-- The row of a key of a user. -/
def ownedV2 (userId keyId : String) (row : KeyV2Row) : Bool :=
  row.userId = userId && row.id = keyId

def ownedLegacy (userId keyId : String) (row : LegacyKeyRow) : Bool :=
  row.userId = userId && row.id = keyId

def activeV2 (userId keyId : String) (row : KeyV2Row) : Bool :=
  ownedV2 userId keyId row && row.status = .active

def revokeApiKeyForUser (db : KeyDb) (userId keyId : String) (now : ℤ) :
    KeyDb × Bool :=
  if db.apiKeysV2.rows.any (activeV2 userId keyId) then
    (db.retire (activeV2 userId keyId) (ownedLegacy userId keyId) now none, true)
  else
    (db, false)

/-- The row of the key that replaces `existing`. -/
def successorOf (userId : String) (existing : KeyV2Row) (expiresAtOverride : Option ℤ)
    (draw : KeyDraw) : KeyV2Row where
  id := draw.id
  userId := userId
  label := existing.label
  scopes := existing.scopes
  keyLookupSha256 := sha256HexApiKeyLookupFingerprint d draw.bearer
  keyHash := hashApiKey d draw.bearer draw.salt
  status := .active
  expiresAt := expiresAtOverride.or existing.expiresAt
  revokedAt := none
  rotatedFromKeyId := some existing.id
  rotatedToKeyId := none

def rotateApiKeyForUser (db : KeyDb) (userId keyId : String)
    (expiresAtOverride : Option ℤ) (draw : KeyDraw) (now : ℤ) : Except String KeyDb :=
  match db.apiKeysV2.rows.find? (ownedV2 userId keyId) with
  | none => .error "cannot rotate non-active key"
  | some existing =>
      if existing.status = .active then do
        let db ← insertKey d db (successorOf d userId existing expiresAtOverride draw)
        .ok (db.retire (ownedV2 userId existing.id) (ownedLegacy userId existing.id)
          now (some draw.id))
      else
        .error "cannot rotate non-active key"

/-! ## Authentication -/

inductive ApiKeySource where
  | v2 | legacy
  deriving DecidableEq, Repr

structure ApiKeyPrincipal where
  source : ApiKeySource
  userId : String
  keyId : String
  label : String
  scopes : List ApiKeyScope
  user : UserRow

def allScopes : List ApiKeyScope := [.read, .meter, .report, .admin]

def parseBearer (authorization : Option String) : Option String :=
  match authorization with
  | none => none
  | some auth =>
      if auth.startsWith "Bearer " then
        let rawKey := jsTrim (auth.drop 7).toString
        if rawKey = "" then none else some rawKey
      else none

/-- The key of a fingerprint, with the user it belongs to. -/
def KeyDb.v2OfLookup (db : KeyDb) (lookup : String) : Option (KeyV2Row × UserRow) :=
  db.apiKeysV2.rows.findSome? fun row =>
    if row.keyLookupSha256 = lookup then (db.users row.userId).map (row, ·) else none

def KeyDb.legacyOfLookup (db : KeyDb) (lookup : String) :
    Option (LegacyKeyRow × UserRow) :=
  db.apiKeys.rows.findSome? fun row =>
    if row.keyLookupSha256 = lookup && row.revokedAt.isNone then
      (db.users row.userId).map (row, ·)
    else none

/-- A row without scopes has them all. -/
def principalOfV2 (key : KeyV2Row) (user : UserRow) : ApiKeyPrincipal where
  source := .v2
  userId := key.userId
  keyId := key.id
  label := key.label
  scopes := if key.scopes.eraseDups.length > 0 then key.scopes.eraseDups else allScopes
  user := user

def authenticateV2 (rawKey : String) (now : ℤ) (key : KeyV2Row) (user : UserRow) :
    Except AuthProblem ApiKeyPrincipal :=
  if !verifyApiKey d rawKey key.keyHash then
    .error ⟨401, .invalidKey, "Invalid API key."⟩
  else if key.status = .revoked then
    .error ⟨401, .keyRevoked, "API key is revoked."⟩
  else if key.status = .disabled then
    .error ⟨401, .keyDisabled, "API key is disabled."⟩
  else if key.expiresAt.any (· ≤ now) then
    .error ⟨401, .keyExpired, "API key is expired."⟩
  else
    .ok (principalOfV2 key user)

def authenticateLegacy (rawKey : String) (key : LegacyKeyRow) (user : UserRow) :
    Except AuthProblem ApiKeyPrincipal :=
  if !verifyApiKey d rawKey key.keyHash then
    .error ⟨401, .invalidKey, "Invalid API key."⟩
  else
    .ok
      { source := .legacy
        userId := key.userId
        keyId := key.id
        label := "legacy"
        scopes := allScopes
        user }

def authenticateApiKey (db : KeyDb) (authorization : Option String) (now : ℤ) :
    Except AuthProblem ApiKeyPrincipal :=
  match parseBearer authorization with
  | none =>
      .error ⟨401, .unauthorized, "Missing or invalid Authorization Bearer token."⟩
  | some rawKey =>
      let lookup := sha256HexApiKeyLookupFingerprint d rawKey
      match db.v2OfLookup lookup with
      | some (key, user) => authenticateV2 d rawKey now key user
      | none =>
          match db.legacyOfLookup lookup with
          | none => .error ⟨401, .invalidKey, "Unknown API key."⟩
          | some (key, user) => authenticateLegacy d rawKey key user

/-! ## The service -/

inductive KeyResponse where
  /-- 401 -/
  | unauthorized
  /-- 400: the account has a live key. -/
  | keyExists
  | issued (apiKey : String)
  | revoked (revoked : Bool)
  | failed (message : String)
  | authenticated (result : Except AuthProblem ApiKeyPrincipal)

def liveLegacy (userId : String) (row : LegacyKeyRow) : Bool :=
  row.userId = userId && row.revokedAt.isNone

/-- `POST /api/account/create-key`. -/
def createKey (db : KeyDb) (session : Option String) (draw : KeyDraw) :
    KeyDb × KeyResponse :=
  match session with
  | none => (db, .unauthorized)
  | some userId =>
      if db.apiKeys.rows.any (liveLegacy userId) then (db, .keyExists)
      else
        match insertLegacy db
            ⟨draw.id, userId, sha256HexApiKeyLookupFingerprint d draw.bearer,
              hashApiKey d draw.bearer draw.salt, none⟩ with
        | .ok db => (db, .issued draw.bearer)
        | .error message => (db, .failed message)

/-- `POST /api/account/revoke-key`. -/
def revokeKey (db : KeyDb) (session : Option String) (now : ℤ) : KeyDb × KeyResponse :=
  match session with
  | none => (db, .unauthorized)
  | some userId =>
      (db.retire (fun _ => false) (liveLegacy userId) now none,
        .revoked (db.apiKeys.rows.any (liveLegacy userId)))

inductive KeyRequest where
  | createKey (session : Option String) (draw : KeyDraw)
  | createApiKey (userId : String) (input : CreateApiKeyInput) (draw : KeyDraw)
  | revokeApiKey (userId keyId : String) (now : ℤ)
  | rotateApiKey (userId keyId : String) (expiresAtOverride : Option ℤ)
      (draw : KeyDraw) (now : ℤ)
  | revokeKey (session : Option String) (now : ℤ)
  | authenticate (authorization : Option String) (now : ℤ)

def serveKeys (db : KeyDb) : KeyRequest → KeyDb × KeyResponse
  | .createKey session draw => createKey d db session draw
  | .createApiKey userId input draw =>
      match createApiKeyForUser d db userId input draw with
      | .ok db => (db, .issued draw.bearer)
      | .error message => (db, .failed message)
  | .revokeApiKey userId keyId now =>
      let out := revokeApiKeyForUser db userId keyId now
      (out.1, .revoked out.2)
  | .rotateApiKey userId keyId expiresAtOverride draw now =>
      match rotateApiKeyForUser d db userId keyId expiresAtOverride draw now with
      | .ok db => (db, .issued draw.bearer)
      | .error message => (db, .failed message)
  | .revokeKey session now => revokeKey db session now
  | .authenticate authorization now =>
      (db, .authenticated (authenticateApiKey d db authorization now))

/-! ## What one request does to the tables -/

/-- A new row of a table with a fresh fingerprint. -/
structure LegacyInserted (db : KeyDb) (row : LegacyKeyRow) (db' : KeyDb) : Prop where
  users : db'.users = db.users
  v2 : db'.apiKeysV2 = db.apiKeysV2
  rows : db'.apiKeys.rows = db.apiKeys.rows ++ [row]
  fresh : ∀ other ∈ db.apiKeys.rows, other.keyLookupSha256 ≠ row.keyLookupSha256

structure KeyInserted (db : KeyDb) (row : KeyV2Row) (db' : KeyDb) : Prop where
  users : db'.users = db.users
  owner : (db.users row.userId).isSome
  rowsV2 : db'.apiKeysV2.rows = db.apiKeysV2.rows ++ [row]
  rows : db'.apiKeys.rows = db.apiKeys.rows ++
    [⟨row.id, row.userId, row.keyLookupSha256, row.keyHash, none⟩]
  freshV2 : ∀ other ∈ db.apiKeysV2.rows, other.keyLookupSha256 ≠ row.keyLookupSha256
  fresh : ∀ other ∈ db.apiKeys.rows, other.keyLookupSha256 ≠ row.keyLookupSha256

theorem legacyInserted_of_insertLegacy {db db' : KeyDb} {row : LegacyKeyRow}
    (h : insertLegacy db row = .ok db') : LegacyInserted db row db' := by
  unfold insertLegacy at h
  split_ifs at h with huser hlookup
  split at h
  · cases h
  · rename_i apiKeys hinsert
    cases h
    refine ⟨rfl, rfl, KeyedTable.rows_of_insert? hinsert, ?_⟩
    intro other hother heq
    exact hlookup (List.any_eq_true.mpr ⟨other, hother, by simpa using heq⟩)

variable {d}

theorem keyInserted_of_insertKey {db db' : KeyDb} {row : KeyV2Row}
    (h : insertKey d db row = .ok db') : KeyInserted db row db' := by
  simp only [insertKey, bind, Except.bind] at h
  split at h
  · cases h
  · rename_i db₁ hv2
    have hlegacy := legacyInserted_of_insertLegacy h
    unfold insertV2 at hv2
    split_ifs at hv2 with hchecks huser hlabel hlookup
    split at hv2
    · cases hv2
    · rename_i apiKeysV2 hinsert
      cases hv2
      refine ⟨hlegacy.users, ?_, ?_, hlegacy.rows, ?_, hlegacy.fresh⟩
      · simpa [Option.isSome_iff_ne_none] using huser
      · rw [hlegacy.v2]
        exact KeyedTable.rows_of_insert? hinsert
      · intro other hother heq
        exact hlookup (List.any_eq_true.mpr ⟨other, hother, by simpa using heq⟩)

/-- What a request may do: insert a legacy row, insert a key, revoke rows. -/
inductive KeyStep : KeyDb → KeyDb → Prop where
  | unchanged (db : KeyDb) : KeyStep db db
  | insertLegacy {db db' : KeyDb} {row : LegacyKeyRow} (h : LegacyInserted db row db') :
      KeyStep db db'
  | insertKey {db db' : KeyDb} {row : KeyV2Row} (h : KeyInserted db row db') :
      KeyStep db db'
  | retire (db : KeyDb) (p : KeyV2Row → Bool) (q : LegacyKeyRow → Bool) (now : ℤ)
      (successor : Option String) : KeyStep db (db.retire p q now successor)
  | trans {db₁ db₂ db₃ : KeyDb} (first : KeyStep db₁ db₂) (second : KeyStep db₂ db₃) :
      KeyStep db₁ db₃

theorem serveKeys_step (db : KeyDb) (r : KeyRequest) :
    KeyStep db (serveKeys d db r).1 := by
  cases r with
  | createKey session draw =>
      simp only [serveKeys, createKey]
      split
      · exact .unchanged db
      · split_ifs
        · exact .unchanged db
        · split
          · rename_i hinsert
            exact .insertLegacy (legacyInserted_of_insertLegacy hinsert)
          · exact .unchanged db
  | createApiKey userId input draw =>
      simp only [serveKeys]
      split
      · rename_i hinsert
        exact .insertKey (keyInserted_of_insertKey hinsert)
      · exact .unchanged db
  | revokeApiKey userId keyId now =>
      simp only [serveKeys, revokeApiKeyForUser]
      split_ifs
      · exact .retire db _ _ now none
      · exact .unchanged db
  | rotateApiKey userId keyId expiresAtOverride draw now =>
      simp only [serveKeys]
      split
      · rename_i db' hrotate
        simp only [rotateApiKeyForUser] at hrotate
        split at hrotate
        · cases hrotate
        · split_ifs at hrotate
          simp only [bind, Except.bind] at hrotate
          split at hrotate
          · cases hrotate
          · rename_i db₁ hinsert
            cases hrotate
            exact .trans (.insertKey (keyInserted_of_insertKey hinsert))
              (.retire db₁ _ _ now _)
      · exact .unchanged db
  | revokeKey session now =>
      simp only [serveKeys, revokeKey]
      split
      · exact .unchanged db
      · exact .retire db _ _ now none
  | authenticate authorization now => exact .unchanged db

/-! ## Both rows of a key -/

/-- What the constraints and the dual write keep: fingerprints are distinct in
each table, owners exist, and a key of `api_key_v2` has its legacy row. -/
structure KeyDb.Linked (db : KeyDb) : Prop where
  uniqueV2 : ∀ row ∈ db.apiKeysV2.rows, ∀ other ∈ db.apiKeysV2.rows,
    row.keyLookupSha256 = other.keyLookupSha256 → row = other
  unique : ∀ row ∈ db.apiKeys.rows, ∀ other ∈ db.apiKeys.rows,
    row.keyLookupSha256 = other.keyLookupSha256 → row = other
  owner : ∀ row ∈ db.apiKeysV2.rows, (db.users row.userId).isSome
  legacy : ∀ row ∈ db.apiKeysV2.rows, ∃ other ∈ db.apiKeys.rows,
    other.id = row.id ∧ other.userId = row.userId ∧
      other.keyLookupSha256 = row.keyLookupSha256 ∧ other.keyHash = row.keyHash

theorem mem_retire_v2 {db : KeyDb} {p : KeyV2Row → Bool} {q : LegacyKeyRow → Bool}
    {now : ℤ} {successor : Option String} {row : KeyV2Row} :
    row ∈ (db.retire p q now successor).apiKeysV2.rows ↔
      ∃ old ∈ db.apiKeysV2.rows, (if p old then old.revoke now successor else old) = row :=
  List.mem_map

theorem mem_retire_legacy {db : KeyDb} {p : KeyV2Row → Bool} {q : LegacyKeyRow → Bool}
    {now : ℤ} {successor : Option String} {row : LegacyKeyRow} :
    row ∈ (db.retire p q now successor).apiKeys.rows ↔
      ∃ old ∈ db.apiKeys.rows, (if q old then old.revoke now else old) = row :=
  List.mem_map

@[simp] theorem retired_v2_lookup (c : Bool) (now : ℤ) (successor : Option String)
    (row : KeyV2Row) :
    (if c then row.revoke now successor else row).keyLookupSha256 =
      row.keyLookupSha256 := by
  cases c <;> rfl

@[simp] theorem retired_v2_userId (c : Bool) (now : ℤ) (successor : Option String)
    (row : KeyV2Row) :
    (if c then row.revoke now successor else row).userId = row.userId := by
  cases c <;> rfl

@[simp] theorem retired_v2_id (c : Bool) (now : ℤ) (successor : Option String)
    (row : KeyV2Row) :
    (if c then row.revoke now successor else row).id = row.id := by
  cases c <;> rfl

@[simp] theorem retired_v2_keyHash (c : Bool) (now : ℤ) (successor : Option String)
    (row : KeyV2Row) :
    (if c then row.revoke now successor else row).keyHash = row.keyHash := by
  cases c <;> rfl

@[simp] theorem retired_legacy_keyHash (c : Bool) (now : ℤ) (row : LegacyKeyRow) :
    (if c then row.revoke now else row).keyHash = row.keyHash := by
  cases c <;> rfl

@[simp] theorem retired_legacy_lookup (c : Bool) (now : ℤ) (row : LegacyKeyRow) :
    (if c then row.revoke now else row).keyLookupSha256 = row.keyLookupSha256 := by
  cases c <;> rfl

@[simp] theorem retired_legacy_userId (c : Bool) (now : ℤ) (row : LegacyKeyRow) :
    (if c then row.revoke now else row).userId = row.userId := by
  cases c <;> rfl

@[simp] theorem retired_legacy_id (c : Bool) (now : ℤ) (row : LegacyKeyRow) :
    (if c then row.revoke now else row).id = row.id := by
  cases c <;> rfl

/-- Adding a row with a fresh fingerprint keeps the fingerprints distinct. -/
theorem unique_append {ρ : Type} {lookup : ρ → String} {rows : List ρ} {row : ρ}
    (hunique : ∀ a ∈ rows, ∀ b ∈ rows, lookup a = lookup b → a = b)
    (hfresh : ∀ a ∈ rows, lookup a ≠ lookup row) :
    ∀ a ∈ rows ++ [row], ∀ b ∈ rows ++ [row], lookup a = lookup b → a = b := by
  intro a ha b hb hab
  simp only [List.mem_append, List.mem_singleton] at ha hb
  rcases ha with ha | rfl
  · rcases hb with hb | rfl
    · exact hunique a ha b hb hab
    · exact (hfresh a ha hab).elim
  · rcases hb with hb | rfl
    · exact (hfresh b hb hab.symm).elim
    · rfl

theorem KeyDb.Linked.insertLegacy {db db' : KeyDb} {row : LegacyKeyRow}
    (hdb : db.Linked) (h : LegacyInserted db row db') : db'.Linked where
  uniqueV2 := by
    rw [h.v2]
    exact hdb.uniqueV2
  unique := by
    rw [h.rows]
    exact unique_append hdb.unique h.fresh
  owner := by
    rw [h.v2, h.users]
    exact hdb.owner
  legacy := by
    intro r hr
    rw [h.v2] at hr
    obtain ⟨other, hother, hsame⟩ := hdb.legacy r hr
    rw [h.rows]
    exact ⟨other, List.mem_append_left _ hother, hsame⟩

theorem KeyDb.Linked.insertKey {db db' : KeyDb} {row : KeyV2Row}
    (hdb : db.Linked) (h : KeyInserted db row db') : db'.Linked where
  uniqueV2 := by
    rw [h.rowsV2]
    exact unique_append hdb.uniqueV2 h.freshV2
  unique := by
    rw [h.rows]
    exact unique_append hdb.unique h.fresh
  owner := by
    intro r hr
    rw [h.rowsV2, List.mem_append, List.mem_singleton] at hr
    rw [h.users]
    rcases hr with hr | rfl
    · exact hdb.owner r hr
    · exact h.owner
  legacy := by
    intro r hr
    rw [h.rowsV2, List.mem_append, List.mem_singleton] at hr
    rw [h.rows]
    rcases hr with hr | rfl
    · obtain ⟨other, hother, hsame⟩ := hdb.legacy r hr
      exact ⟨other, List.mem_append_left _ hother, hsame⟩
    · exact ⟨_, List.mem_append_right _ (List.mem_singleton.mpr rfl), rfl, rfl, rfl,
        rfl⟩

theorem KeyDb.Linked.retire {db : KeyDb} (hdb : db.Linked) (p : KeyV2Row → Bool)
    (q : LegacyKeyRow → Bool) (now : ℤ) (successor : Option String) :
    (db.retire p q now successor).Linked where
  uniqueV2 := by
    intro row hrow other hother hsame
    obtain ⟨a, ha, rfl⟩ := mem_retire_v2.mp hrow
    obtain ⟨b, hb, rfl⟩ := mem_retire_v2.mp hother
    rw [hdb.uniqueV2 a ha b hb (by simpa using hsame)]
  unique := by
    intro row hrow other hother hsame
    obtain ⟨a, ha, rfl⟩ := mem_retire_legacy.mp hrow
    obtain ⟨b, hb, rfl⟩ := mem_retire_legacy.mp hother
    rw [hdb.unique a ha b hb (by simpa using hsame)]
  owner := by
    intro row hrow
    obtain ⟨a, ha, rfl⟩ := mem_retire_v2.mp hrow
    rw [retired_v2_userId]
    exact hdb.owner a ha
  legacy := by
    intro row hrow
    obtain ⟨a, ha, rfl⟩ := mem_retire_v2.mp hrow
    obtain ⟨b, hb, hid, huser, hlookup, hhash⟩ := hdb.legacy a ha
    exact ⟨_, mem_retire_legacy.mpr ⟨b, hb, rfl⟩, by simpa using hid,
      by simpa using huser, by simpa using hlookup, by simpa using hhash⟩

theorem KeyDb.Linked.step {db db' : KeyDb} (hdb : db.Linked) (h : KeyStep db db') :
    db'.Linked := by
  induction h with
  | unchanged _ => exact hdb
  | insertLegacy h => exact hdb.insertLegacy h
  | insertKey h => exact hdb.insertKey h
  | retire _ p q now successor => exact hdb.retire p q now successor
  | trans _ _ ih₁ ih₂ => exact ih₂ (ih₁ hdb)

/-! ## Revoked fingerprints -/

/-- Every row of the fingerprint is revoked (or disabled), and there is one in
the legacy table, so that no new key can take it. -/
structure Dead (lookup : String) (db : KeyDb) : Prop where
  known : ∃ row ∈ db.apiKeys.rows, row.keyLookupSha256 = lookup
  legacy : ∀ row ∈ db.apiKeys.rows, row.keyLookupSha256 = lookup → row.revokedAt.isSome
  v2 : ∀ row ∈ db.apiKeysV2.rows, row.keyLookupSha256 = lookup → row.status ≠ .active

theorem Dead.insertLegacy {lookup : String} {db db' : KeyDb} {row : LegacyKeyRow}
    (hdead : Dead lookup db) (h : LegacyInserted db row db') : Dead lookup db' := by
  obtain ⟨known, hknown, hlookup⟩ := hdead.known
  refine ⟨⟨known, ?_, hlookup⟩, ?_, ?_⟩
  · rw [h.rows]
    exact List.mem_append_left _ hknown
  · intro r hr hsame
    rw [h.rows, List.mem_append, List.mem_singleton] at hr
    rcases hr with hr | rfl
    · exact hdead.legacy r hr hsame
    · exact (h.fresh known hknown (hlookup.trans hsame.symm)).elim
  · rw [h.v2]
    exact hdead.v2

theorem Dead.insertKey {lookup : String} {db db' : KeyDb} {row : KeyV2Row}
    (hdead : Dead lookup db) (h : KeyInserted db row db') : Dead lookup db' := by
  obtain ⟨known, hknown, hlookup⟩ := hdead.known
  refine ⟨⟨known, ?_, hlookup⟩, ?_, ?_⟩
  · rw [h.rows]
    exact List.mem_append_left _ hknown
  · intro r hr hsame
    rw [h.rows, List.mem_append, List.mem_singleton] at hr
    rcases hr with hr | rfl
    · exact hdead.legacy r hr hsame
    · exact (h.fresh known hknown (hlookup.trans hsame.symm)).elim
  · intro r hr hsame
    rw [h.rowsV2, List.mem_append, List.mem_singleton] at hr
    rcases hr with hr | rfl
    · exact hdead.v2 r hr hsame
    · exact (h.fresh known hknown (hlookup.trans hsame.symm)).elim

theorem Dead.retire {lookup : String} {db : KeyDb} (hdead : Dead lookup db)
    (p : KeyV2Row → Bool) (q : LegacyKeyRow → Bool) (now : ℤ)
    (successor : Option String) : Dead lookup (db.retire p q now successor) := by
  obtain ⟨known, hknown, hlookup⟩ := hdead.known
  refine ⟨⟨_, mem_retire_legacy.mpr ⟨known, hknown, rfl⟩, by simpa using hlookup⟩, ?_, ?_⟩
  · intro r hr hsame
    obtain ⟨old, hold, rfl⟩ := mem_retire_legacy.mp hr
    have hrevoked := hdead.legacy old hold (by simpa using hsame)
    by_cases hq : q old = true
    · simp [hq, LegacyKeyRow.revoke]
    · simpa [hq] using hrevoked
  · intro r hr hsame
    obtain ⟨old, hold, rfl⟩ := mem_retire_v2.mp hr
    have hinactive := hdead.v2 old hold (by simpa using hsame)
    by_cases hp : p old = true
    · simp [hp, KeyV2Row.revoke]
    · simpa [hp] using hinactive

theorem Dead.step {lookup : String} {db db' : KeyDb} (hdead : Dead lookup db)
    (h : KeyStep db db') : Dead lookup db' := by
  induction h with
  | unchanged _ => exact hdead
  | insertLegacy h => exact hdead.insertLegacy h
  | insertKey h => exact hdead.insertKey h
  | retire _ p q now successor => exact hdead.retire p q now successor
  | trans _ _ ih₁ ih₂ => exact ih₂ (ih₁ hdead)

theorem Dead.run {lookup : String} {db : KeyDb} (hdead : Dead lookup db)
    (rs : List KeyRequest) : Dead lookup (finish (serveKeys d) db rs) :=
  finish_invariant (fun db r h => h.step (serveKeys_step db r)) hdead rs

/-! ## Authentication after a revocation -/

theorem v2OfLookup_eq_some {db : KeyDb} {lookup : String} {row : KeyV2Row}
    {user : UserRow} (h : db.v2OfLookup lookup = some (row, user)) :
    row ∈ db.apiKeysV2.rows ∧ row.keyLookupSha256 = lookup := by
  obtain ⟨old, hold, hrow⟩ := List.exists_of_findSome?_eq_some h
  split_ifs at hrow with hlookup
  obtain ⟨user', -, hpair⟩ := Option.map_eq_some_iff.mp hrow
  have heq : old = row := congrArg Prod.fst hpair
  rw [← heq]
  exact ⟨hold, hlookup⟩

theorem legacyOfLookup_eq_some {db : KeyDb} {lookup : String} {row : LegacyKeyRow}
    {user : UserRow} (h : db.legacyOfLookup lookup = some (row, user)) :
    row ∈ db.apiKeys.rows ∧ row.keyLookupSha256 = lookup ∧ row.revokedAt = none := by
  obtain ⟨old, hold, hrow⟩ := List.exists_of_findSome?_eq_some h
  split_ifs at hrow with hlookup
  obtain ⟨user', -, hpair⟩ := Option.map_eq_some_iff.mp hrow
  have heq : old = row := congrArg Prod.fst hpair
  rw [← heq]
  simp only [Bool.and_eq_true, decide_eq_true_eq, Option.isNone_iff_eq_none] at hlookup
  exact ⟨hold, hlookup⟩

theorem v2OfLookup_of_mem {db : KeyDb} (hdb : db.Linked) {row : KeyV2Row}
    (hrow : row ∈ db.apiKeysV2.rows) :
    ∃ user, db.v2OfLookup row.keyLookupSha256 = some (row, user) := by
  obtain ⟨user, huser⟩ := Option.isSome_iff_exists.mp (hdb.owner row hrow)
  cases hfound : db.v2OfLookup row.keyLookupSha256 with
  | none =>
      have hnone := List.findSome?_eq_none_iff.mp hfound row hrow
      simp [huser] at hnone
  | some found =>
      obtain ⟨other, user'⟩ := found
      obtain ⟨hother, hsame⟩ := v2OfLookup_eq_some hfound
      rw [hdb.uniqueV2 other hother row hrow hsame]
      exact ⟨user', rfl⟩

theorem inactive_of_authenticateV2 {rawKey : String} {now : ℤ} {key : KeyV2Row}
    {user : UserRow} {principal : ApiKeyPrincipal}
    (h : authenticateV2 d rawKey now key user = .ok principal) :
    key.status ≠ .revoked ∧ key.status ≠ .disabled := by
  constructor
  · intro hstatus
    simp only [authenticateV2, hstatus, if_true] at h
    split_ifs at h
  · intro hstatus
    simp only [authenticateV2, hstatus, reduceCtorEq, if_false, if_true] at h
    split_ifs at h

/-- A revoked fingerprint does not authenticate. -/
theorem authenticateApiKey_of_dead {db : KeyDb} {rawKey : String}
    (hdead : Dead (sha256HexApiKeyLookupFingerprint d rawKey) db)
    {authorization : Option String} (hbearer : parseBearer authorization = some rawKey)
    (now : ℤ) (principal : ApiKeyPrincipal) :
    authenticateApiKey d db authorization now ≠ .ok principal := by
  intro hok
  simp only [authenticateApiKey, hbearer] at hok
  split at hok
  · rename_i key user hfound
    obtain ⟨hkey, hlookup⟩ := v2OfLookup_eq_some hfound
    have hinactive := hdead.v2 key hkey hlookup
    obtain ⟨hrevoked, hdisabled⟩ := inactive_of_authenticateV2 hok
    cases hstatus : key.status with
    | active => exact hinactive hstatus
    | revoked => exact hrevoked hstatus
    | disabled => exact hdisabled hstatus
  · split at hok
    · cases hok
    · rename_i key user hfound
      obtain ⟨hkey, hlookup, hlive⟩ := legacyOfLookup_eq_some hfound
      have hrevoked := hdead.legacy key hkey hlookup
      simp [hlive] at hrevoked

variable (d)

/-- `rawKey` is the key that a row with this fingerprint and hash was made for,
and a bearer token can carry it. -/
def IsKeyOf (rawKey lookup : String) (hash : KeyHash) : Prop :=
  parseBearer (some ("Bearer " ++ rawKey)) = some rawKey ∧
    lookup = sha256HexApiKeyLookupFingerprint d rawKey ∧
      verifyApiKey d rawKey hash = true

/-- The answer of a request says that the key is revoked. -/
def Revokes (db : KeyDb) (r : KeyRequest) (rawKey : String) : Prop :=
  match r with
  | .revokeApiKey userId keyId _ =>
      (serveKeys d db r).2 = .revoked true ∧
        ∃ row ∈ db.apiKeysV2.rows, ownedV2 userId keyId row = true ∧
          IsKeyOf d rawKey row.keyLookupSha256 row.keyHash
  | .rotateApiKey userId keyId _ draw _ =>
      (serveKeys d db r).2 = .issued draw.bearer ∧
        ∃ row ∈ db.apiKeysV2.rows, ownedV2 userId keyId row = true ∧
          IsKeyOf d rawKey row.keyLookupSha256 row.keyHash
  | .revokeKey (some userId) _ =>
      (serveKeys d db r).2 = .revoked true ∧
        ((∃ row ∈ db.apiKeysV2.rows, row.userId = userId ∧
            IsKeyOf d rawKey row.keyLookupSha256 row.keyHash) ∨
          ∃ row ∈ db.apiKeys.rows, row.userId = userId ∧
            IsKeyOf d rawKey row.keyLookupSha256 row.keyHash)
  | _ => False

/-- An account-wide revocation finds the key active in `api_key_v2`. -/
def LeavesActive (db : KeyDb) (r : KeyRequest) (rawKey : String) : Prop :=
  (∃ userId now, r = .revokeKey (some userId) now) ∧
    ∃ row ∈ db.apiKeysV2.rows,
      row.keyLookupSha256 = sha256HexApiKeyLookupFingerprint d rawKey ∧
        row.status = .active

abbrev KeyTurn := Turn KeyDb KeyRequest KeyResponse

/-- The turn authenticates a request that carries the key. -/
def Authenticates (rawKey : String) (t : KeyTurn) : Prop :=
  ∃ authorization now principal, t.request = .authenticate authorization now ∧
    parseBearer authorization = some rawKey ∧
      t.response = .authenticated (.ok principal)

variable {d}

/-- The two updates of a key leave its fingerprint dead. -/
theorem dead_of_retire {db : KeyDb} (hdb : db.Linked) {row : KeyV2Row}
    (hrow : row ∈ db.apiKeysV2.rows) {p : KeyV2Row → Bool} {q : LegacyKeyRow → Bool}
    (hp : row.status = .active → p row = true)
    (hq : ∀ other, other.id = row.id → other.userId = row.userId → q other = true)
    (now : ℤ) (successor : Option String) :
    Dead row.keyLookupSha256 (db.retire p q now successor) := by
  obtain ⟨other, hother, hid, huser, hlookup, -⟩ := hdb.legacy row hrow
  refine ⟨⟨_, mem_retire_legacy.mpr ⟨other, hother, rfl⟩, by simpa using hlookup⟩, ?_, ?_⟩
  · intro r hr hsame
    obtain ⟨old, hold, rfl⟩ := mem_retire_legacy.mp hr
    have heq : old = other :=
      hdb.unique old hold other hother (by simpa [hlookup] using hsame)
    rw [heq, hq other hid huser]
    rfl
  · intro r hr hsame
    obtain ⟨old, hold, rfl⟩ := mem_retire_v2.mp hr
    have heq : old = row := hdb.uniqueV2 old hold row hrow (by simpa using hsame)
    rw [heq]
    by_cases hpr : p row = true
    · simp [hpr, KeyV2Row.revoke]
    · simpa [hpr] using mt hp hpr

/-- Every key of a user has its legacy row. -/
theorem exists_legacy_of_key {db : KeyDb} (hdb : db.Linked) {userId rawKey : String}
    (h : (∃ row ∈ db.apiKeysV2.rows, row.userId = userId ∧
        IsKeyOf d rawKey row.keyLookupSha256 row.keyHash) ∨
      ∃ row ∈ db.apiKeys.rows, row.userId = userId ∧
        IsKeyOf d rawKey row.keyLookupSha256 row.keyHash) :
    ∃ row ∈ db.apiKeys.rows, row.userId = userId ∧
      IsKeyOf d rawKey row.keyLookupSha256 row.keyHash := by
  rcases h with ⟨row, hrow, huser, hkey⟩ | h
  · obtain ⟨other, hother, -, hsame, hlookup, hhash⟩ := hdb.legacy row hrow
    refine ⟨other, hother, hsame.trans huser, ?_⟩
    rw [hlookup, hhash]
    exact hkey
  · exact h

/-- Unless it leaves the key active, a request that answers that a key is
revoked leaves its fingerprint dead. -/
theorem dead_of_revokes {db : KeyDb} (hdb : db.Linked) {r : KeyRequest} {rawKey : String}
    (h : Revokes d db r rawKey) (hleft : ¬LeavesActive d db r rawKey) :
    Dead (sha256HexApiKeyLookupFingerprint d rawKey) (serveKeys d db r).1 := by
  cases r with
  | createKey session draw => exact h.elim
  | createApiKey userId input draw => exact h.elim
  | authenticate authorization now => exact h.elim
  | revokeApiKey userId keyId now =>
      obtain ⟨hanswer, row, hrow, howned, -, hlookup, -⟩ := h
      simp only [ownedV2, Bool.and_eq_true, decide_eq_true_eq] at howned
      simp only [serveKeys, revokeApiKeyForUser] at hanswer ⊢
      split_ifs at hanswer ⊢ with hany
      · rw [← hlookup]
        apply dead_of_retire hdb hrow
        · intro hactive
          simp [activeV2, ownedV2, howned, hactive]
        · intro other hid huser
          simp [ownedLegacy, hid, huser, howned]
      · cases hanswer
  | rotateApiKey userId keyId expiresAtOverride draw now =>
      obtain ⟨hanswer, row, hrow, howned, -, hlookup, -⟩ := h
      simp only [serveKeys] at hanswer ⊢
      split at hanswer
      · rename_i db' hrotate
        simp only [rotateApiKeyForUser] at hrotate
        split at hrotate
        · cases hrotate
        · rename_i existing hexisting
          have hid : existing.id = keyId := by
            have hfound := List.find?_some hexisting
            simp only [ownedV2, Bool.and_eq_true, decide_eq_true_eq] at hfound
            exact hfound.2
          split_ifs at hrotate
          simp only [bind, Except.bind] at hrotate
          split at hrotate
          · cases hrotate
          · rename_i db₁ hinsert
            cases hrotate
            have hkey := keyInserted_of_insertKey hinsert
            have hrow₁ : row ∈ db₁.apiKeysV2.rows := by
              rw [hkey.rowsV2]
              exact List.mem_append_left _ hrow
            rw [← hlookup, hid]
            apply dead_of_retire (hdb.insertKey hkey) hrow₁
            · intro _
              exact howned
            · intro other hsame huser
              simp only [ownedV2, Bool.and_eq_true, decide_eq_true_eq] at howned
              simp [ownedLegacy, hsame, huser, howned]
      · cases hanswer
  | revokeKey session now =>
      cases session with
      | none => exact h.elim
      | some userId =>
          obtain ⟨row, hrow, huser, -, hlookup, -⟩ := exists_legacy_of_key hdb h.2
          refine ⟨⟨_, mem_retire_legacy.mpr ⟨row, hrow, rfl⟩, by simpa using hlookup⟩,
            ?_, ?_⟩
          · intro other hother hsame
            obtain ⟨old, hold, rfl⟩ := mem_retire_legacy.mp hother
            have heq : old = row :=
              hdb.unique old hold row hrow (by simpa [hlookup] using hsame)
            by_cases hlive : liveLegacy userId old = true
            · simp [hlive, LegacyKeyRow.revoke]
            · rw [if_neg hlive]
              simpa [liveLegacy, heq, huser, Option.isSome_iff_ne_none] using hlive
          · intro other hother hsame hactive
            obtain ⟨old, hold, rfl⟩ := mem_retire_v2.mp hother
            exact hleft ⟨⟨userId, now, rfl⟩, old, hold, hsame, hactive⟩

/-- A key that a revocation leaves active still authenticates. -/
theorem authenticates_of_leavesActive {db : KeyDb} (hdb : db.Linked) {r : KeyRequest}
    {rawKey : String} (h : Revokes d db r rawKey) (hleft : LeavesActive d db r rawKey) :
    ∃ now principal, authenticateApiKey d (serveKeys d db r).1
      (some ("Bearer " ++ rawKey)) now = .ok principal := by
  obtain ⟨⟨userId, now, rfl⟩, row, hrow, hlookup, hactive⟩ := hleft
  obtain ⟨legacy, hlegacy, -, hbearer, hsame, hverify⟩ := exists_legacy_of_key hdb h.2
  obtain ⟨other, hother, -, -, hotherLookup, hotherHash⟩ := hdb.legacy row hrow
  have heq : other = legacy := by
    apply hdb.unique other hother legacy hlegacy
    rw [hotherLookup, hlookup, hsame]
  rw [← heq, hotherHash] at hverify
  have hkept : row ∈ (serveKeys d db (.revokeKey (some userId) now)).1.apiKeysV2.rows :=
    mem_retire_v2.mpr ⟨row, hrow, rfl⟩
  have hlinked : (serveKeys d db (.revokeKey (some userId) now)).1.Linked :=
    hdb.step (serveKeys_step db _)
  obtain ⟨user, huser⟩ := v2OfLookup_of_mem hlinked hkept
  obtain ⟨early, hearly⟩ : ∃ early : ℤ, row.expiresAt.any (· ≤ early) = false := by
    cases row.expiresAt with
    | none => exact ⟨0, rfl⟩
    | some expiresAt =>
        have hlater : ¬expiresAt ≤ expiresAt - 1 := by omega
        exact ⟨expiresAt - 1, by simpa using hlater⟩
  rw [hlookup] at huser
  refine ⟨early, principalOfV2 row user, ?_⟩
  simp only [authenticateApiKey, hbearer, huser]
  simp only [authenticateV2, hverify, hactive, hearly, Bool.not_true, Bool.false_eq_true,
    if_false, reduceCtorEq]

/-- After an answer that a key is revoked, the key never authenticates again, in
any run, exactly unless the answer is of `revoke-key` and the key is active in
`api_key_v2`. -/
theorem stays_out_iff (d : KeyDeployment) (db : KeyDb) (hdb : db.Linked)
    (earlier : List KeyRequest) (r : KeyRequest) (rawKey : String)
    (h : Revokes d (finish (serveKeys d) db earlier) r rawKey) :
    (∀ later, ∀ t ∈ turns (serveKeys d) (finish (serveKeys d) db (earlier ++ [r])) later,
      ¬Authenticates rawKey t) ↔
        ¬LeavesActive d (finish (serveKeys d) db earlier) r rawKey := by
  have hlinked : (finish (serveKeys d) db earlier).Linked :=
    finish_invariant (fun db r h => h.step (serveKeys_step db r)) hdb earlier
  rw [finish_append, finish_cons, finish_nil]
  constructor
  · intro hout hleft
    obtain ⟨now, principal, hok⟩ := authenticates_of_leavesActive hlinked h hleft
    have hbearer : parseBearer (some ("Bearer " ++ rawKey)) = some rawKey := by
      obtain ⟨⟨userId, now, rfl⟩, -⟩ := hleft
      obtain ⟨-, -, -, hbearer, -⟩ := exists_legacy_of_key hlinked h.2
      exact hbearer
    apply hout [.authenticate (some ("Bearer " ++ rawKey)) now] _
      (List.mem_singleton.mpr rfl)
    exact ⟨_, now, principal, rfl, hbearer, congrArg KeyResponse.authenticated hok⟩
  · rintro hleft later t ht ⟨authorization, now, principal, hrequest, hbearer, hresponse⟩
    have hdead := dead_of_revokes hlinked h hleft
    obtain ⟨hbefore, hturn⟩ := turns_before
      (fun _ r h => h.step (serveKeys_step _ r)) hdead ht
    rw [hturn, turnOf_response, hrequest] at hresponse
    exact authenticateApiKey_of_dead hbefore hbearer now principal
      (KeyResponse.authenticated.inj hresponse)

/-- No keys yet. -/
def emptyKeyDb (users : String → Option UserRow) : KeyDb where
  users := users
  apiKeysV2 := ⟨[], List.nodup_nil⟩
  apiKeys := ⟨[], List.nodup_nil⟩

theorem linked_emptyKeyDb (users : String → Option UserRow) :
    (emptyKeyDb users).Linked where
  uniqueV2 := by intro row hrow; cases hrow
  unique := by intro row hrow; cases hrow
  owner := by intro row hrow; cases hrow
  legacy := by intro row hrow; cases hrow

/-- Digests that keep their input. -/
def plainDeployment : KeyDeployment := ⟨id, fun plaintext salt => salt ++ plaintext, true⟩

def oneUser (id : String) : Option UserRow :=
  if id = "u1" then some ⟨"team", "active", none⟩ else none

def createCiKey : KeyRequest :=
  .createApiKey "u1" ⟨"ci", [.meter], none⟩ ⟨"key-1", "wf_sk_live_1", "salt"⟩

/-- The row that `createCiKey` writes. -/
def ciKey : KeyV2Row :=
  ⟨"key-1", "u1", "ci", [.meter], "wf_sk_live_1", ⟨"salt", "saltwf_sk_live_1"⟩, .active,
    none, none, none, none⟩

theorem isKeyOf_ciKey :
    IsKeyOf plainDeployment "wf_sk_live_1" ciKey.keyLookupSha256 ciKey.keyHash := by
  refine ⟨by decide +kernel, rfl, by decide +kernel⟩

theorem createCiKey_rows :
    (finish (serveKeys plainDeployment) (emptyKeyDb oneUser)
      [createCiKey]).apiKeysV2.rows = [ciKey] := by
  decide +kernel

theorem stays_out_iff_lifecycle :
    (∀ later, ∀ t ∈ turns (serveKeys plainDeployment)
        (finish (serveKeys plainDeployment) (emptyKeyDb oneUser)
          ([createCiKey] ++ [.revokeApiKey "u1" "key-1" 0])) later,
      ¬Authenticates "wf_sk_live_1" t) ↔
        ¬LeavesActive plainDeployment
          (finish (serveKeys plainDeployment) (emptyKeyDb oneUser) [createCiKey])
          (.revokeApiKey "u1" "key-1" 0) "wf_sk_live_1" := by
  apply stays_out_iff plainDeployment _ (linked_emptyKeyDb oneUser)
  refine ⟨?_, ciKey, ?_, by decide +kernel, isKeyOf_ciKey⟩
  · simp only [serveKeys, revokeApiKeyForUser, createCiKey_rows]
    rfl
  · rw [createCiKey_rows]
    exact List.mem_singleton.mpr rfl

/-- The account-wide revocation answers that the key is revoked, and the key
still authenticates. -/
theorem revokeKey_leaves_ciKey :
    ¬∀ (d : KeyDeployment) (db : KeyDb), Function.Injective d.sha256Hex → db.Linked →
      ∀ (earlier : List KeyRequest) (r : KeyRequest) (rawKey : String),
        Revokes d (finish (serveKeys d) db earlier) r rawKey →
          ∀ later, ∀ t ∈ turns (serveKeys d)
            (finish (serveKeys d) db (earlier ++ [r])) later,
              ¬Authenticates rawKey t := by
  intro hout
  have hlinked : (finish (serveKeys plainDeployment) (emptyKeyDb oneUser)
      [createCiKey]).Linked :=
    (linked_emptyKeyDb oneUser).step (serveKeys_step _ _)
  have hmem : ciKey ∈ (finish (serveKeys plainDeployment) (emptyKeyDb oneUser)
      [createCiKey]).apiKeysV2.rows := by
    rw [createCiKey_rows]
    exact List.mem_singleton.mpr rfl
  have hlegacy : (finish (serveKeys plainDeployment) (emptyKeyDb oneUser)
      [createCiKey]).apiKeys.rows.any (liveLegacy "u1") = true := by
    decide +kernel
  have hrevokes : Revokes plainDeployment
      (finish (serveKeys plainDeployment) (emptyKeyDb oneUser) [createCiKey])
      (.revokeKey (some "u1") 0) "wf_sk_live_1" := by
    refine ⟨?_, Or.inl ⟨ciKey, hmem, rfl, isKeyOf_ciKey⟩⟩
    simp only [serveKeys, revokeKey, hlegacy]
  obtain ⟨now, principal, hok⟩ := authenticates_of_leavesActive hlinked hrevokes
    ⟨⟨"u1", 0, rfl⟩, ciKey, hmem, rfl, rfl⟩
  apply hout plainDeployment (emptyKeyDb oneUser) Function.injective_id
    (linked_emptyKeyDb oneUser) [createCiKey] (.revokeKey (some "u1") 0) "wf_sk_live_1"
    hrevokes [.authenticate (some ("Bearer " ++ "wf_sk_live_1")) now] _
    (List.mem_singleton.mpr rfl)
  exact ⟨_, now, principal, rfl, isKeyOf_ciKey.1,
    congrArg KeyResponse.authenticated hok⟩

end AgentSkeptic.Hosted.ApiKeys

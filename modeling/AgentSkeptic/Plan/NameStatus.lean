import AgentSkeptic.Events.RunEvents
import AgentSkeptic.Support.Fallible
import AgentSkeptic.Support.Utf8Ascii

/-!
# Rows of a diff

`parseGitNameStatusZ` of `planTransition.ts`: the NUL-delimited tokens of
`git diff -z --name-status`, a status and its one or two paths at a time.
-/

namespace AgentSkeptic.Plan

open AgentSkeptic.Support AgentSkeptic.Events

/-! ## The parser -/

inductive PlanDiffRowKind where
  | add | modify | delete | rename | copy | typeChange | unmerged
  deriving DecidableEq

/-- One path, or the old and the new one. -/
structure PlanDiffRow where
  rowKind : PlanDiffRowKind
  paths : List String
  deriving DecidableEq

/-- `p.replace(/\\/g, "/")`. -/
def normalizePathSlashes (p : List Char) : String :=
  String.ofList (p.map fun c => if c = '\\' then '/' else c)

def truncatedStream : TruthLayerError where
  code := "PLAN_TRANSITION_GIT_PARSE"
  message := "git name-status -z: truncated stream (missing NUL)."

def unknownStatusToken (status : List Char) : TruthLayerError where
  code := "PLAN_TRANSITION_GIT_PARSE"
  message := "git name-status -z: unknown status token " ++ quote (String.ofList status) ++ "."

/-- The text up to the next NUL, and what follows it. -/
def readStr (buf : Bytes) : Except TruthLayerError (List Char × Bytes) :=
  match buf.dropWhile (· ≠ 0) with
  | [] => .error truncatedStream
  | _ :: rest => .ok (utf8Decode (buf.takeWhile (· ≠ 0)), rest)

/-- `/^[AMDTU]$/`, and the kind of each. -/
def singleKind? : List Char → Option PlanDiffRowKind
  | ['A'] => some .add
  | ['M'] => some .modify
  | ['D'] => some .delete
  | ['T'] => some .typeChange
  | ['U'] => some .unmerged
  | _ => none

/-- A letter and one or more digits. -/
def isScored (letter : Char) : List Char → Bool
  | [] => false
  | c :: digits => c = letter && !digits.isEmpty && digits.all Char.isDigit

def readTwoPaths (rowKind : PlanDiffRowKind) (buf : Bytes) :
    Except TruthLayerError (Option (PlanDiffRow × Bytes)) := do
  let (oldP, rest) ← readStr buf
  let (newP, rest) ← readStr rest
  return some (⟨rowKind, [normalizePathSlashes oldP, normalizePathSlashes newP]⟩, rest)

/-- What a status is followed by. -/
def readPaths (status : List Char) (buf : Bytes) :
    Except TruthLayerError (Option (PlanDiffRow × Bytes)) :=
  match singleKind? status with
  | some k => do
      let (pathStr, rest) ← readStr buf
      return some (⟨k, [normalizePathSlashes pathStr]⟩, rest)
  | none =>
      if isScored 'R' status then readTwoPaths .rename buf
      else if isScored 'C' status then readTwoPaths .copy buf
      else .error (unknownStatusToken status)

/-- One turn of the loop; an empty status ends it. -/
def readRow (buf : Bytes) : Except TruthLayerError (Option (PlanDiffRow × Bytes)) := do
  let (status, rest) ← readStr buf
  if status = [] then return none
  readPaths status rest

/-! ## Tokens -/

/-- A token of the stream. -/
structure NulToken where
  bytes : Bytes
  noNul : 0 ∉ bytes

def NulToken.text (t : NulToken) : List Char := utf8Decode t.bytes

/-- A token and its NUL. -/
def delimited (bytes : Bytes) : Bytes := bytes ++ [0]

theorem readStr_delimited (t : NulToken) (rest : Bytes) :
    readStr (delimited t.bytes ++ rest) = .ok (t.text, rest) := by
  have hne : ∀ b ∈ t.bytes, decide (b ≠ 0) = true := by
    intro b hb
    rw [decide_eq_true_eq]
    rintro rfl
    exact t.noNul hb
  have hdrop : (delimited t.bytes ++ rest).dropWhile (· ≠ 0) = 0 :: rest := by
    rw [delimited, List.append_assoc, List.dropWhile_append_of_pos hne]
    rfl
  have htake : (delimited t.bytes ++ rest).takeWhile (· ≠ 0) = t.bytes := by
    rw [delimited, List.append_assoc, List.takeWhile_append_of_pos hne]
    simp
  rw [readStr, hdrop, htake]
  rfl

theorem readStr_eq_ok {buf rest : Bytes} {text : List Char} :
    readStr buf = .ok (text, rest) ↔
      ∃ t : NulToken, buf = delimited t.bytes ++ rest ∧ text = t.text := by
  constructor
  · intro h
    have hsplit : buf.takeWhile (· ≠ 0) ++ buf.dropWhile (· ≠ 0) = buf :=
      List.takeWhile_append_dropWhile
    rw [readStr] at h
    cases hdrop : buf.dropWhile (· ≠ 0) with
    | nil =>
        rw [hdrop] at h
        cases h
    | cons z tail =>
        rw [hdrop] at h hsplit
        obtain ⟨rfl, rfl⟩ := Prod.mk.inj (Except.ok.inj h)
        obtain rfl : z = 0 := by
          have hhead := List.head?_dropWhile_not (fun b : UInt8 => decide (b ≠ 0)) buf
          rw [hdrop] at hhead
          simpa using hhead
        have hnoNul : 0 ∉ buf.takeWhile (· ≠ 0) := by
          intro hmem
          have hne := List.mem_takeWhile_imp hmem
          simp at hne
        refine ⟨⟨_, hnoNul⟩, ?_, rfl⟩
        rw [delimited, List.append_assoc, List.singleton_append]
        exact hsplit.symm
  · rintro ⟨t, rfl, rfl⟩
    exact readStr_delimited t rest

theorem readStr_length {buf rest : Bytes} {text : List Char}
    (h : readStr buf = .ok (text, rest)) : rest.length < buf.length := by
  obtain ⟨t, rfl, -⟩ := readStr_eq_ok.mp h
  rw [delimited, List.length_append, List.length_append, List.length_singleton]
  omega

/-! ## The loop -/

theorem readTwoPaths_length {rowKind : PlanDiffRowKind} {buf rest : Bytes}
    {row : PlanDiffRow} (h : readTwoPaths rowKind buf = .ok (some (row, rest))) :
    rest.length < buf.length := by
  obtain ⟨⟨oldP, middle⟩, hold, h⟩ := bind_eq_ok.mp h
  obtain ⟨⟨newP, last⟩, hnew, h⟩ := bind_eq_ok.mp h
  have hlast : last = rest := (Prod.mk.inj (Option.some.inj (Except.ok.inj h))).2
  rw [← hlast]
  exact (readStr_length hnew).trans (readStr_length hold)

theorem readPaths_length {status : List Char} {buf rest : Bytes} {row : PlanDiffRow}
    (h : readPaths status buf = .ok (some (row, rest))) : rest.length < buf.length := by
  rw [readPaths] at h
  cases hkind : singleKind? status with
  | some k =>
      rw [hkind] at h
      obtain ⟨⟨path, last⟩, hpath, h⟩ := bind_eq_ok.mp h
      have hlast : last = rest := (Prod.mk.inj (Option.some.inj (Except.ok.inj h))).2
      rw [← hlast]
      exact readStr_length hpath
  | none =>
      simp only [hkind] at h
      split_ifs at h
      · exact readTwoPaths_length h
      · exact readTwoPaths_length h

theorem readRow_length {buf rest : Bytes} {row : PlanDiffRow}
    (h : readRow buf = .ok (some (row, rest))) : rest.length < buf.length := by
  obtain ⟨⟨status, middle⟩, hstatus, h⟩ := bind_eq_ok.mp h
  dsimp only at h
  split_ifs at h with hempty
  · cases h
  · exact (readPaths_length h).trans (readStr_length hstatus)

/-- `while (p < len)`. -/
def parseRows (rows : List PlanDiffRow) (buf : Bytes) :
    Except TruthLayerError (List PlanDiffRow) :=
  if buf = [] then .ok rows
  else
    match h : readRow buf with
    | .error e => .error e
    | .ok none => .ok rows
    | .ok (some (row, rest)) => parseRows (rows ++ [row]) rest
termination_by buf.length
decreasing_by exact readRow_length h

theorem parseRows_of_readRow {rows : List PlanDiffRow} {buf : Bytes} (hne : buf ≠ [])
    {turn : Except TruthLayerError (Option (PlanDiffRow × Bytes))} (h : readRow buf = turn) :
    parseRows rows buf =
      match turn with
      | .error e => .error e
      | .ok none => .ok rows
      | .ok (some (row, rest)) => parseRows (rows ++ [row]) rest := by
  rw [parseRows, if_neg hne]
  split
  all_goals
    rename_i hread
    obtain rfl := h.symm.trans hread
    rfl

def parseGitNameStatusZ (buf : Bytes) : Except TruthLayerError (List PlanDiffRow) :=
  parseRows [] buf

/-! ## Records -/

/-- `/^\d+$/`. -/
structure Score where
  digits : List Char
  ne_nil : digits ≠ []
  isDigit : digits.all Char.isDigit = true

/-- A row as `git` writes it, over the paths. -/
inductive DiffRecord (α : Type) where
  | add (path : α)
  | modify (path : α)
  | delete (path : α)
  | typeChange (path : α)
  | unmerged (path : α)
  | rename (score : Score) (oldPath newPath : α)
  | copy (score : Score) (oldPath newPath : α)

namespace DiffRecord

variable {α β : Type}

def rowKind : DiffRecord α → PlanDiffRowKind
  | add _ => .add
  | modify _ => .modify
  | delete _ => .delete
  | typeChange _ => .typeChange
  | unmerged _ => .unmerged
  | rename _ _ _ => .rename
  | copy _ _ _ => .copy

def status : DiffRecord α → List Char
  | add _ => ['A']
  | modify _ => ['M']
  | delete _ => ['D']
  | typeChange _ => ['T']
  | unmerged _ => ['U']
  | rename score _ _ => 'R' :: score.digits
  | copy score _ _ => 'C' :: score.digits

def paths : DiffRecord α → List α
  | add path | modify path | delete path | typeChange path | unmerged path => [path]
  | rename _ oldPath newPath | copy _ oldPath newPath => [oldPath, newPath]

def map (f : α → β) : DiffRecord α → DiffRecord β
  | add path => add (f path)
  | modify path => modify (f path)
  | delete path => delete (f path)
  | typeChange path => typeChange (f path)
  | unmerged path => unmerged (f path)
  | rename score oldPath newPath => rename score (f oldPath) (f newPath)
  | copy score oldPath newPath => copy score (f oldPath) (f newPath)

/-- The row of a record, given the text of a path. -/
def row (text : α → String) (r : DiffRecord α) : PlanDiffRow where
  rowKind := r.rowKind
  paths := r.paths.map text

/-- The bytes of a record, given those of a path. -/
def encode (bytes : α → Bytes) (r : DiffRecord α) : Bytes :=
  delimited (utf8Encode r.status) ++ r.paths.flatMap fun path => delimited (bytes path)

theorem row_map (f : α → β) (text : β → String) (r : DiffRecord α) :
    (r.map f).row text = r.row fun path => text (f path) := by
  cases r <;> rfl

theorem encode_map (f : α → β) (bytes : β → Bytes) (r : DiffRecord α) :
    (r.map f).encode bytes = r.encode fun path => bytes (f path) := by
  cases r <;> rfl

theorem status_ne_nil (r : DiffRecord α) : r.status ≠ [] := by
  cases r <;> exact List.cons_ne_nil _ _

theorem status_ascii (r : DiffRecord α) : ∀ c ∈ r.status, 0 < c.toNat ∧ c.toNat < 0x80 := by
  have hscore : ∀ score : Score, ∀ c ∈ score.digits, 0 < c.toNat ∧ c.toNat < 0x80 := by
    intro score c hc
    have hdigit := List.all_eq_true.mp score.isDigit c hc
    have hrange : 48 ≤ c.toNat ∧ c.toNat ≤ 57 := by
      simp only [Char.isDigit, Bool.and_eq_true, decide_eq_true_eq] at hdigit
      exact hdigit
    omega
  cases r with
  | rename score oldPath newPath =>
      exact List.forall_mem_cons.mpr ⟨by decide, hscore score⟩
  | copy score oldPath newPath =>
      exact List.forall_mem_cons.mpr ⟨by decide, hscore score⟩
  | add path => simp [status]
  | modify path => simp [status]
  | delete path => simp [status]
  | typeChange path => simp [status]
  | unmerged path => simp [status]

end DiffRecord

/-- The token of a status. -/
def statusToken {α : Type} (r : DiffRecord α) : NulToken where
  bytes := utf8Encode r.status
  noNul := zero_notMem_utf8Encode fun hmem => by
    have hascii := (r.status_ascii _ hmem).1
    simp at hascii

theorem statusToken_text {α : Type} (r : DiffRecord α) : (statusToken r).text = r.status :=
  utf8Decode_utf8Encode r.status

/-- A path as the parser keeps it. -/
def NulToken.path (t : NulToken) : String := normalizePathSlashes t.text

theorem singleKind?_status {α : Type} {status : List Char} {k : PlanDiffRowKind}
    (h : singleKind? status = some k) (path : α) :
    ∃ r : DiffRecord α, r.status = status ∧ r.rowKind = k ∧ r.paths = [path] := by
  unfold singleKind? at h
  split at h
  · exact ⟨.add path, rfl, Option.some.inj h, rfl⟩
  · exact ⟨.modify path, rfl, Option.some.inj h, rfl⟩
  · exact ⟨.delete path, rfl, Option.some.inj h, rfl⟩
  · exact ⟨.typeChange path, rfl, Option.some.inj h, rfl⟩
  · exact ⟨.unmerged path, rfl, Option.some.inj h, rfl⟩
  · cases h

theorem exists_score {letter : Char} {status : List Char} (h : isScored letter status = true) :
    ∃ score : Score, status = letter :: score.digits := by
  cases status with
  | nil => cases h
  | cons c digits =>
      rw [isScored, Bool.and_eq_true, Bool.and_eq_true, decide_eq_true_eq] at h
      obtain ⟨⟨rfl, hne⟩, hdigits⟩ := h
      exact ⟨⟨digits, by simpa using hne, hdigits⟩, rfl⟩

theorem isScored_digits (letter : Char) (score : Score) :
    isScored letter (letter :: score.digits) = true := by
  have hne := score.ne_nil
  rw [isScored, score.isDigit, decide_eq_true rfl]
  simpa using hne

theorem isScored_of_ne {letter c : Char} (h : c ≠ letter) (digits : List Char) :
    isScored letter (c :: digits) = false := by
  rw [isScored, decide_eq_false h, Bool.false_and, Bool.false_and]

/-- The row of a record is read off its bytes. -/
theorem readRow_encode (r : DiffRecord NulToken) (rest : Bytes) :
    readRow (r.encode NulToken.bytes ++ rest) = .ok (some (r.row NulToken.path, rest)) := by
  have hstatus : readStr (r.encode NulToken.bytes ++ rest) =
      .ok (r.status, (r.paths.flatMap fun path => delimited path.bytes) ++ rest) := by
    have hread := readStr_delimited (statusToken r)
      ((r.paths.flatMap fun path => delimited path.bytes) ++ rest)
    rw [statusToken_text, ← List.append_assoc] at hread
    exact hread
  have htwo : ∀ (k : PlanDiffRowKind) (oldPath newPath : NulToken),
      readTwoPaths k (([oldPath, newPath].flatMap fun path => delimited path.bytes) ++ rest) =
        .ok (some (⟨k, [oldPath.path, newPath.path]⟩, rest)) := by
    intro k oldPath newPath
    rw [List.flatMap_cons, List.flatMap_singleton, List.append_assoc]
    apply bind_eq_ok.mpr ⟨_, readStr_delimited oldPath _, ?_⟩
    exact bind_eq_ok.mpr ⟨_, readStr_delimited newPath _, rfl⟩
  have hone : ∀ (status : List Char) (k : PlanDiffRowKind) (path : NulToken),
      singleKind? status = some k →
        readPaths status (([path].flatMap fun path => delimited path.bytes) ++ rest) =
          .ok (some (⟨k, [path.path]⟩, rest)) := by
    intro status k path hkind
    rw [readPaths, hkind, List.flatMap_singleton]
    exact bind_eq_ok.mpr ⟨_, readStr_delimited path _, rfl⟩
  have hletter : ∀ (letter : Char) (score : Score), letter = 'R' ∨ letter = 'C' →
      singleKind? (letter :: score.digits) = none := by
    intro letter score hletter
    rcases hletter with rfl | rfl
    · simp [singleKind?]
    · simp [singleKind?]
  have hpaths : readPaths r.status
      ((r.paths.flatMap fun path => delimited path.bytes) ++ rest) =
        .ok (some (r.row NulToken.path, rest)) := by
    cases r with
    | add path => exact hone _ _ path rfl
    | modify path => exact hone _ _ path rfl
    | delete path => exact hone _ _ path rfl
    | typeChange path => exact hone _ _ path rfl
    | unmerged path => exact hone _ _ path rfl
    | rename score oldPath newPath =>
        rw [readPaths, DiffRecord.status, hletter 'R' score (.inl rfl)]
        dsimp only
        rw [if_pos (isScored_digits 'R' score)]
        exact htwo _ oldPath newPath
    | copy score oldPath newPath =>
        rw [readPaths, DiffRecord.status, hletter 'C' score (.inr rfl)]
        dsimp only
        rw [if_neg (by simp [isScored_of_ne]), if_pos (isScored_digits 'C' score)]
        exact htwo _ oldPath newPath
  refine bind_eq_ok.mpr ⟨_, hstatus, ?_⟩
  dsimp only
  rw [if_neg r.status_ne_nil]
  exact hpaths

/-- A status is ASCII, so its bytes are those of its text. -/
theorem delimited_of_status {r : DiffRecord NulToken} {t : NulToken} (h : r.status = t.text) :
    delimited t.bytes = delimited (utf8Encode r.status) := by
  have hascii : ∀ c ∈ utf8Decode t.bytes, c.toNat < 0x80 := by
    intro c hc
    have hmem : c ∈ r.status := by
      rw [h]
      exact hc
    exact (r.status_ascii c hmem).2
  rw [h, NulToken.text, utf8Encode_utf8Decode_ascii hascii]

/-- What is read after a status makes a record with it. -/
def ReadsRecord (t : NulToken) (buf : Bytes) (turn : Option (PlanDiffRow × Bytes)) : Prop :=
  ∃ (r : DiffRecord NulToken) (rest : Bytes), turn = some (r.row NulToken.path, rest) ∧
    delimited t.bytes ++ buf = r.encode NulToken.bytes ++ rest

theorem readTwoPaths_eq_ok {t : NulToken} {k : PlanDiffRowKind} {buf : Bytes}
    {turn : Option (PlanDiffRow × Bytes)} (h : readTwoPaths k buf = .ok turn)
    (record : NulToken → NulToken → DiffRecord NulToken)
    (hrecord : ∀ oldPath newPath, (record oldPath newPath).status = t.text ∧
      (record oldPath newPath).rowKind = k ∧
        (record oldPath newPath).paths = [oldPath, newPath]) :
    ReadsRecord t buf turn := by
  obtain ⟨⟨oldP, afterOld⟩, hold, h⟩ := bind_eq_ok.mp h
  obtain ⟨⟨newP, rest⟩, hnew, h⟩ := bind_eq_ok.mp h
  obtain ⟨oldPath, rfl, rfl⟩ := readStr_eq_ok.mp hold
  obtain ⟨newPath, rfl, rfl⟩ := readStr_eq_ok.mp hnew
  obtain ⟨hstatus, hkind, hpaths⟩ := hrecord oldPath newPath
  have hrow : (record oldPath newPath).row NulToken.path =
      ⟨k, [oldPath.path, newPath.path]⟩ := by
    rw [DiffRecord.row, hkind, hpaths]
    rfl
  refine ⟨record oldPath newPath, rest, ?_, ?_⟩
  · rw [hrow]
    exact (Except.ok.inj h).symm
  · rw [DiffRecord.encode, delimited_of_status hstatus, hpaths]
    simp

theorem readPaths_eq_ok {t : NulToken} {buf : Bytes} {turn : Option (PlanDiffRow × Bytes)}
    (h : readPaths t.text buf = .ok turn) : ReadsRecord t buf turn := by
  rw [readPaths] at h
  cases hkind : singleKind? t.text with
  | some k =>
      rw [hkind] at h
      obtain ⟨⟨pathStr, rest⟩, hpath, h⟩ := bind_eq_ok.mp h
      obtain ⟨path, rfl, rfl⟩ := readStr_eq_ok.mp hpath
      obtain ⟨r, hstatus, hrkind, hpaths⟩ := singleKind?_status hkind path
      have hrow : r.row NulToken.path = ⟨k, [path.path]⟩ := by
        rw [DiffRecord.row, hrkind, hpaths]
        rfl
      refine ⟨r, rest, ?_, ?_⟩
      · rw [hrow]
        exact (Except.ok.inj h).symm
      · rw [DiffRecord.encode, delimited_of_status hstatus, hpaths]
        simp
  | none =>
      simp only [hkind] at h
      split_ifs at h with hrename hcopy
      · obtain ⟨score, hscore⟩ := exists_score hrename
        exact readTwoPaths_eq_ok h (.rename score) fun _ _ => ⟨hscore.symm, rfl, rfl⟩
      · obtain ⟨score, hscore⟩ := exists_score hcopy
        exact readTwoPaths_eq_ok h (.copy score) fun _ _ => ⟨hscore.symm, rfl, rfl⟩

theorem bytes_eq_nil {t : NulToken} (h : t.text = []) : t.bytes = [] := by
  have hascii : ∀ c ∈ utf8Decode t.bytes, c.toNat < 0x80 := by
    rw [← NulToken.text, h]
    simp
  have hencode := utf8Encode_utf8Decode_ascii hascii
  rw [← NulToken.text, h] at hencode
  exact hencode.symm

/-- What is read is a record, or an empty status. -/
theorem readRow_eq_ok {buf : Bytes} {turn : Option (PlanDiffRow × Bytes)}
    (h : readRow buf = .ok turn) :
    (turn = none ∧ ∃ rest, buf = 0 :: rest) ∨
      ∃ (r : DiffRecord NulToken) (rest : Bytes), turn = some (r.row NulToken.path, rest) ∧
        buf = r.encode NulToken.bytes ++ rest := by
  obtain ⟨⟨status, middle⟩, hstatus, h⟩ := bind_eq_ok.mp h
  obtain ⟨t, rfl, rfl⟩ := readStr_eq_ok.mp hstatus
  dsimp only at h
  split_ifs at h with hempty
  · left
    refine ⟨(Except.ok.inj h).symm, middle, ?_⟩
    rw [bytes_eq_nil hempty]
    rfl
  · right
    exact readPaths_eq_ok h

theorem readRow_emptyStatus (rest : Bytes) : readRow (0 :: rest) = .ok none := by
  have hstatus : readStr (0 :: rest) = .ok ([], rest) := by
    have hread := readStr_delimited ⟨[], by simp⟩ rest
    exact hread
  exact bind_eq_ok.mpr ⟨_, hstatus, rfl⟩

/-! ## Streams -/

/-- The stream of records. -/
def encodeRecords {α : Type} (bytes : α → Bytes) (records : List (DiffRecord α)) : Bytes :=
  records.flatMap (DiffRecord.encode bytes)

/-- The end of the stream, or an empty status. -/
def Stops (unread : Bytes) : Prop := unread = [] ∨ ∃ rest, unread = 0 :: rest

theorem encode_ne_nil {α : Type} (bytes : α → Bytes) (r : DiffRecord α) (rest : Bytes) :
    r.encode bytes ++ rest ≠ [] := by
  rw [DiffRecord.encode, delimited]
  simp

theorem parseRows_encode (records : List (DiffRecord NulToken)) {unread : Bytes}
    (hstops : Stops unread) (rows : List PlanDiffRow) :
    parseRows rows (encodeRecords NulToken.bytes records ++ unread) =
      .ok (rows ++ records.map (DiffRecord.row NulToken.path)) := by
  induction records generalizing rows with
  | nil =>
      rw [List.map_nil, List.append_nil, encodeRecords, List.flatMap_nil, List.nil_append]
      rcases hstops with rfl | ⟨rest, rfl⟩
      · rw [parseRows, if_pos rfl]
      · rw [parseRows_of_readRow (List.cons_ne_nil _ _) (readRow_emptyStatus rest)]
  | cons r records ih =>
      have hread := readRow_encode r (encodeRecords NulToken.bytes records ++ unread)
      have hcons : encodeRecords NulToken.bytes (r :: records) ++ unread =
          r.encode NulToken.bytes ++ (encodeRecords NulToken.bytes records ++ unread) := by
        rw [encodeRecords, List.flatMap_cons, List.append_assoc]
        rfl
      rw [hcons, parseRows_of_readRow (encode_ne_nil _ _ _) hread]
      dsimp only
      rw [ih, List.map_cons, List.append_assoc, List.singleton_append]

theorem parseRows_eq_ok {rows out : List PlanDiffRow} {buf : Bytes}
    (h : parseRows rows buf = .ok out) :
    ∃ (records : List (DiffRecord NulToken)) (unread : Bytes),
      buf = encodeRecords NulToken.bytes records ++ unread ∧
        out = rows ++ records.map (DiffRecord.row NulToken.path) ∧ Stops unread := by
  induction rows, buf using parseRows.induct with
  | case1 rows =>
      rw [parseRows, if_pos rfl] at h
      exact ⟨[], [], rfl, by simpa using (Except.ok.inj h).symm, .inl rfl⟩
  | case2 rows buf hne e hread =>
      rw [parseRows_of_readRow hne hread] at h
      cases h
  | case3 rows buf hne hread =>
      rw [parseRows_of_readRow hne hread] at h
      obtain ⟨-, hempty⟩ | ⟨r, rest, hturn, -⟩ := readRow_eq_ok hread
      · exact ⟨[], buf, rfl, by simpa using (Except.ok.inj h).symm, .inr hempty⟩
      · cases hturn
  | case4 rows buf hne row rest hread ih =>
      rw [parseRows_of_readRow hne hread] at h
      obtain ⟨hturn, -⟩ | ⟨r, later, hturn, hbuf⟩ := readRow_eq_ok hread
      · cases hturn
      · obtain ⟨rfl, rfl⟩ := Prod.mk.inj (Option.some.inj hturn)
        obtain ⟨records, unread, hrest, hout, hstops⟩ := ih h
        refine ⟨r :: records, unread, ?_, ?_, hstops⟩
        · rw [hbuf, hrest, encodeRecords, encodeRecords, List.flatMap_cons, List.append_assoc]
        · rw [hout, List.map_cons, List.append_assoc, List.singleton_append]

/-! ## Paths as text -/

/-- A path as `git` names it: neither empty nor with a NUL or a backslash. -/
structure DiffPath where
  text : String
  ne_empty : text ≠ ""
  noNul : '\x00' ∉ text.toList
  noBackslash : '\\' ∉ text.toList

def DiffPath.bytes (p : DiffPath) : Bytes := utf8Encode p.text.toList

def DiffPath.token (p : DiffPath) : NulToken := ⟨p.bytes, zero_notMem_utf8Encode p.noNul⟩

theorem DiffPath.path_token (p : DiffPath) : p.token.path = p.text := by
  have htext : p.token.text = p.text.toList := utf8Decode_utf8Encode _
  have hsame : (p.text.toList.map fun c => if c = '\\' then '/' else c) = p.text.toList := by
    have hkept : ∀ c ∈ p.text.toList, (if c = '\\' then '/' else c) = c := by
      intro c hc
      apply if_neg
      rintro rfl
      exact p.noBackslash hc
    exact (List.map_congr_left hkept).trans (List.map_id' _)
  rw [NulToken.path, htext, normalizePathSlashes, hsame, String.ofList_toList]

/-- Rows with such paths are read as they are written.  A stream that is read is one of
records, whose paths are decoded and their backslashes turned; nothing is left of it but
what an empty status starts. -/
theorem gitNameStatus_exact :
    (∀ records : List (DiffRecord DiffPath),
      parseGitNameStatusZ (encodeRecords DiffPath.bytes records) =
        .ok (records.map (DiffRecord.row DiffPath.text))) ∧
      ∀ (buf : Bytes) (rows : List PlanDiffRow), parseGitNameStatusZ buf = .ok rows →
        ∃ (records : List (DiffRecord NulToken)) (unread : Bytes),
          buf = encodeRecords NulToken.bytes records ++ unread ∧
            rows = records.map (DiffRecord.row NulToken.path) ∧ Stops unread := by
  constructor
  · intro records
    have hbytes : encodeRecords DiffPath.bytes records =
        encodeRecords NulToken.bytes (records.map (DiffRecord.map DiffPath.token)) ++ [] := by
      rw [List.append_nil, encodeRecords, encodeRecords, List.flatMap_map]
      congr 1
      funext r
      exact (r.encode_map DiffPath.token NulToken.bytes).symm
    have hrows : (records.map (DiffRecord.map DiffPath.token)).map
        (DiffRecord.row NulToken.path) = records.map (DiffRecord.row DiffPath.text) := by
      rw [List.map_map]
      apply List.map_congr_left
      intro r _
      rw [Function.comp_apply, DiffRecord.row_map]
      congr 1
      funext p
      exact p.path_token
    rw [parseGitNameStatusZ, hbytes, parseRows_encode _ (.inl rfl), List.nil_append, hrows]
  · intro buf rows h
    simpa using parseRows_eq_ok h

/-- One modified file. -/
theorem gitNameStatus_modify :
    (∀ records : List (DiffRecord DiffPath),
      parseGitNameStatusZ (encodeRecords DiffPath.bytes records) =
        .ok (records.map (DiffRecord.row DiffPath.text))) ∧
      ∃ (records : List (DiffRecord NulToken)) (unread : Bytes),
        ([77, 0, 97, 0] : Bytes) = encodeRecords NulToken.bytes records ++ unread ∧
          [⟨.modify, ["a"]⟩] = records.map (DiffRecord.row NulToken.path) ∧ Stops unread := by
  have hread : parseGitNameStatusZ [77, 0, 97, 0] = .ok [⟨.modify, ["a"]⟩] :=
    parseRows_encode [.modify ⟨[97], by decide⟩] (.inl rfl) []
  exact ⟨gitNameStatus_exact.1, gitNameStatus_exact.2 _ _ hread⟩

/-! ## Streams that are not the encoding of their rows -/

/-- The stream is the encoding of the rows, with some score for each rename and copy. -/
def IsEncodingOf (buf : Bytes) (rows : List PlanDiffRow) : Prop :=
  ∃ records : List (DiffRecord String), rows = records.map (DiffRecord.row id) ∧
    buf = encodeRecords (fun path => utf8Encode path.toList) records

theorem isEncodingOf_modify {buf : Bytes} {path : String}
    (h : IsEncodingOf buf [⟨.modify, [path]⟩]) :
    buf = delimited [77] ++ delimited (utf8Encode path.toList) := by
  obtain ⟨records, hrows, rfl⟩ := h
  obtain ⟨r, rfl, hrow⟩ : ∃ r, records = [r] ∧ r.row id = ⟨.modify, [path]⟩ := by
    have hlength := congrArg List.length hrows
    rw [List.length_map] at hlength
    obtain ⟨r, rfl⟩ := List.length_eq_one_iff.mp hlength.symm
    exact ⟨r, rfl, (List.singleton_inj.mp hrows).symm⟩
  cases r with
  | modify own =>
      obtain rfl : own = path := by
        have hpaths := congrArg PlanDiffRow.paths hrow
        simpa [DiffRecord.row, DiffRecord.paths] using hpaths
      simp [encodeRecords, DiffRecord.encode, DiffRecord.status, DiffRecord.paths, utf8Encode]
      rfl
  | add own => cases hrow
  | delete own => cases hrow
  | typeChange own => cases hrow
  | unmerged own => cases hrow
  | rename score oldPath newPath => cases hrow
  | copy score oldPath newPath => cases hrow

/-- A backslash, a byte that is not UTF-8, and an empty status before a row. -/
theorem unfaithful_streams :
    (parseGitNameStatusZ [77, 0, 97, 92, 98, 0] = .ok [⟨.modify, ["a/b"]⟩] ∧
        ¬ IsEncodingOf [77, 0, 97, 92, 98, 0] [⟨.modify, ["a/b"]⟩]) ∧
      (parseGitNameStatusZ [77, 0, 255, 0] = .ok [⟨.modify, ["\uFFFD"]⟩] ∧
        ¬ IsEncodingOf [77, 0, 255, 0] [⟨.modify, ["\uFFFD"]⟩]) ∧
      parseGitNameStatusZ [0, 77, 0, 97, 0] = .ok [] ∧
        ¬ IsEncodingOf [0, 77, 0, 97, 0] [] := by
  refine ⟨⟨?_, ?_⟩, ⟨?_, ?_⟩, ?_, ?_⟩
  · exact parseRows_encode [.modify ⟨[97, 92, 98], by decide⟩] (.inl rfl) []
  · intro h
    exact absurd (isEncodingOf_modify h) (by decide)
  · exact parseRows_encode [.modify ⟨[255], by decide⟩] (.inl rfl) []
  · intro h
    exact absurd (isEncodingOf_modify h) (by decide)
  · exact parseRows_encode [] (.inr ⟨_, rfl⟩) []
  · rintro ⟨records, hrows, hbuf⟩
    obtain rfl := List.map_eq_nil_iff.mp hrows.symm
    cases hbuf

end AgentSkeptic.Plan

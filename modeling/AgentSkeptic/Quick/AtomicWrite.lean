import AgentSkeptic.Support.Utf8Cut

/-!
# Atomic file replacement

`quickVerify/atomicWrite.ts`: a temporary file in the directory of the target is written,
synced, closed and renamed to the target, which is then read back.  A text that does not
read back as it was given is unlinked, and the function throws.

The read-back follows the rename, so that whatever goes wrong from there on finds the old
content gone; and a write of fewer bytes is seen only by the read-back.
`allOrNothing_iff` says which faults leave the target all or nothing.
-/

namespace AgentSkeptic.Quick.AtomicWrite

open AgentSkeptic.Support

/-! ## Strings and bytes -/

/-- A string, by its code units: surrogates may be unpaired. -/
abbrev JsText := List UInt16

def codeUnits (utf8 : JsText) : List ℕ := utf8.map UInt16.toNat

/-- `Buffer.from(utf8, "utf8")`: an unpaired surrogate is written as U+FFFD. -/
def bufferFrom (utf8 : JsText) : Bytes := utf8Encode (ofUtf16 (codeUnits utf8))

/-- The code units of `bytes.toString("utf8")`. -/
def decoded (bytes : Bytes) : List ℕ := (utf8Decode bytes).flatMap utf16Char

/-- No surrogate is unpaired: the characters of the string give it back. -/
def IsWellFormed (utf8 : JsText) : Prop :=
  (ofUtf16 (codeUnits utf8)).flatMap utf16Char = codeUnits utf8

instance (utf8 : JsText) : Decidable (IsWellFormed utf8) := decEq _ _

/-! ## The file system -/

/-- The contents of the files, by their paths. -/
abbrev Files := String → Option Bytes

inductive FsStep where
  | mkdirSync | openSync | writeSync | fsyncSync | closeSync
  | renameSync | readFileSync | unlinkSync
  deriving DecidableEq, Repr

/-- What goes wrong in one run.  A write that throws may have written some bytes. -/
inductive Fault where
  | nothing
  | throws (step : FsStep) (written : ℕ)
  | writesOnly (n : ℕ)
  deriving DecidableEq, Repr

def Fault.hits (fault : Fault) (step : FsStep) : Bool :=
  match fault with
  | .throws s _ => s = step
  | _ => false

/-- The bytes that reach the file when `buf` is written. -/
def Fault.written (fault : Fault) (buf : Bytes) : Bytes :=
  match fault with
  | .throws .writeSync n => buf.take n
  | .writesOnly n => buf.take n
  | _ => buf

inductive WriteError where
  | fs (step : FsStep)
  | readBackMismatch
  deriving DecidableEq, Repr

abbrev FsM := ExceptT WriteError (StateM Files)

theorem run_bind_ok {α β : Type} {prog : FsM α} {next : α → FsM β} {a : α}
    {files files' : Files} (h : prog.run.run files = (.ok a, files')) :
    (prog >>= next).run.run files = (next a).run.run files' := by
  have hbind : (prog >>= next).run.run files =
      ExceptT.bindCont next (prog.run.run files).1 (prog.run.run files).2 := rfl
  rw [hbind, h]
  rfl

/-- A step that has its effect on the files, or throws. -/
def fsStep (fault : Fault) (step : FsStep) (effect : Files → Files) : FsM Unit := do
  if fault.hits step then throw (.fs step)
  modify effect

/-- `openSync(path, "w")`. -/
def openSync (fault : Fault) (path : String) : FsM Unit :=
  fsStep fault .openSync fun files => Function.update files path (some [])

/-- `writeSync(fd, buf, 0, buf.length)` to a file that was just opened; the number of
bytes that it returns is not looked at. -/
def writeSync (fault : Fault) (path : String) (buf : Bytes) : FsM Unit := do
  modify fun files => Function.update files path (some (fault.written buf))
  fsStep fault .writeSync id

def renameSync (fault : Fault) (source target : String) : FsM Unit :=
  fsStep fault .renameSync fun files =>
    Function.update (Function.update files target (files source)) source none

/-- `readFileSync(path, "utf8")`. -/
def readFileSync (fault : Fault) (path : String) : FsM (List ℕ) := do
  fsStep fault .readFileSync id
  match (← get) path with
  | some bytes => return decoded bytes
  | none => throw (.fs .readFileSync)

def unlinkSync (fault : Fault) (path : String) : FsM Unit :=
  fsStep fault .unlinkSync fun files => Function.update files path none

/-! ## The write -/

/-- `randomBytes(8).toString("hex")` is `suffix`. -/
def tmpPath (targetPath suffix : String) : String := targetPath ++ ".tmp." ++ suffix

def atomicWriteUtf8File (fault : Fault) (targetPath suffix : String) (utf8 : JsText) :
    FsM Unit := do
  fsStep fault .mkdirSync id
  let tmp := tmpPath targetPath suffix
  let buf := bufferFrom utf8
  openSync fault tmp
  try
    writeSync fault tmp buf
    fsStep fault .fsyncSync id
  finally
    fsStep fault .closeSync id
  renameSync fault tmp targetPath
  let readBack ← readFileSync fault targetPath
  if readBack ≠ codeUnits utf8 then
    try
      unlinkSync fault targetPath
    catch _ =>
      pure ()
    throw .readBackMismatch

/-- How the write ends, and the files it leaves. -/
def outcome (fault : Fault) (targetPath suffix : String) (utf8 : JsText) (files : Files) :
    Except WriteError Unit × Files :=
  (atomicWriteUtf8File fault targetPath suffix utf8).run.run files

/-! ## What is left of the target -/

/-- The steps that come before the old content is gone. -/
def FsStep.beforeReplacement : FsStep → Bool
  | .mkdirSync | .openSync | .writeSync | .fsyncSync | .closeSync | .renameSync => true
  | .readFileSync | .unlinkSync => false

theorem tmpPath_ne (targetPath suffix : String) : targetPath ≠ tmpPath targetPath suffix := by
  intro h
  have hlength := congrArg (·.toList.length) h
  simp only [tmpPath, String.toList_append, List.length_append] at hlength
  have hmarker : ".tmp.".toList.length = 5 := rfl
  omega

/-- The files with the temporary one, before the rename. -/
def staged (fault : Fault) (targetPath suffix : String) (utf8 : JsText) (files : Files) :
    Files :=
  Function.update
    (Function.update files (tmpPath targetPath suffix) (some []))
    (tmpPath targetPath suffix) (some (fault.written (bufferFrom utf8)))

theorem staged_target (fault : Fault) (targetPath suffix : String) (utf8 : JsText)
    (files : Files) : staged fault targetPath suffix utf8 files targetPath = files targetPath := by
  have hne := tmpPath_ne targetPath suffix
  rw [staged, Function.update_of_ne hne, Function.update_of_ne hne]

theorem staged_tmp (fault : Fault) (targetPath suffix : String) (utf8 : JsText)
    (files : Files) : staged fault targetPath suffix utf8 files (tmpPath targetPath suffix) =
      some (fault.written (bufferFrom utf8)) := Function.update_self _ _ _

/-- The files after the rename. -/
def renamed (fault : Fault) (targetPath suffix : String) (utf8 : JsText) (files : Files) :
    Files :=
  Function.update
    (Function.update (staged fault targetPath suffix utf8 files) targetPath
      (staged fault targetPath suffix utf8 files (tmpPath targetPath suffix)))
    (tmpPath targetPath suffix) none

theorem renamed_target (fault : Fault) (targetPath suffix : String) (utf8 : JsText)
    (files : Files) : renamed fault targetPath suffix utf8 files targetPath =
      some (fault.written (bufferFrom utf8)) := by
  rw [renamed, Function.update_of_ne (tmpPath_ne targetPath suffix), Function.update_self,
    staged_tmp]

/-- A step that throws before the old content is gone leaves the target alone. -/
theorem outcome_beforeReplacement {targetPath suffix : String} {utf8 : JsText}
    {files : Files} {step : FsStep} {n : ℕ} (hstep : step.beforeReplacement = true) :
    ∃ files', outcome (.throws step n) targetPath suffix utf8 files =
      (.error (.fs step), files') ∧ files' targetPath = files targetPath := by
  have hstaged := staged_target (.throws step n) targetPath suffix utf8 files
  cases step with
  | mkdirSync => exact ⟨files, rfl, rfl⟩
  | openSync => exact ⟨files, rfl, rfl⟩
  | writeSync => exact ⟨_, rfl, hstaged⟩
  | fsyncSync => exact ⟨_, rfl, hstaged⟩
  | closeSync => exact ⟨_, rfl, hstaged⟩
  | renameSync => exact ⟨_, rfl, hstaged⟩
  | readFileSync => exact absurd hstep (by decide)
  | unlinkSync => exact absurd hstep (by decide)

/-- A read-back that throws finds the old content gone. -/
theorem outcome_readBackThrows (targetPath suffix : String) (utf8 : JsText) (files : Files)
    (n : ℕ) : outcome (.throws .readFileSync n) targetPath suffix utf8 files =
      (.error (.fs .readFileSync),
        renamed (.throws .readFileSync n) targetPath suffix utf8 files) := rfl

/-- The end of the write, from the read-back on. -/
def verifyReadBack (fault : Fault) (targetPath : String) (utf8 : JsText) : FsM Unit := do
  let readBack ← readFileSync fault targetPath
  if readBack ≠ codeUnits utf8 then
    try
      unlinkSync fault targetPath
    catch _ =>
      pure ()
    throw .readBackMismatch

/-- Nothing throws up to the rename. -/
def Fault.silent : Fault → Bool
  | .throws step _ => step = .unlinkSync
  | _ => true

theorem outcome_of_silent {fault : Fault} (h : fault.silent = true) (targetPath suffix : String)
    (utf8 : JsText) (files : Files) : outcome fault targetPath suffix utf8 files =
      (verifyReadBack fault targetPath utf8).run.run
        (renamed fault targetPath suffix utf8 files) := by
  cases fault with
  | nothing => rfl
  | writesOnly n => rfl
  | throws step n =>
      have hstep : step = .unlinkSync := of_decide_eq_true h
      rw [hstep]
      rfl

theorem readFileSync_run {fault : Fault} (h : fault.silent = true) {path : String}
    {files : Files} {bytes : Bytes} (hread : files path = some bytes) :
    (readFileSync fault path).run.run files = (.ok (decoded bytes), files) := by
  have hhits : fault.hits .readFileSync = false := by
    cases fault with
    | nothing => rfl
    | writesOnly n => rfl
    | throws step n =>
        have hstep : step = .unlinkSync := of_decide_eq_true h
        rw [hstep]
        rfl
  have hstep : (fsStep fault .readFileSync id).run.run files = (.ok (), files) := by
    rw [fsStep, hhits]
    rfl
  have hget : (get : FsM Files).run.run files = (.ok files, files) := rfl
  rw [readFileSync, run_bind_ok hstep, run_bind_ok hget, hread]
  rfl

theorem verifyReadBack_run {fault : Fault} (h : fault.silent = true) {targetPath : String}
    {utf8 : JsText} {files : Files} {bytes : Bytes} (hread : files targetPath = some bytes) :
    (verifyReadBack fault targetPath utf8).run.run files =
      if decoded bytes = codeUnits utf8 then (.ok (), files)
      else (.error .readBackMismatch,
        if fault.hits .unlinkSync then files else Function.update files targetPath none) := by
  rw [verifyReadBack, run_bind_ok (readFileSync_run h hread)]
  by_cases hmatches : decoded bytes = codeUnits utf8
  · rw [if_pos hmatches, if_neg (not_not.mpr hmatches)]
    rfl
  · rw [if_neg hmatches, if_pos hmatches, unlinkSync, fsStep]
    by_cases hunlink : fault.hits .unlinkSync = true
    · rw [if_pos hunlink, if_pos hunlink]
      rfl
    · rw [if_neg hunlink, if_neg hunlink]
      rfl

/-! ## Which bytes read back -/

/-- Only a well-formed string reads back, whatever the bytes. -/
theorem isWellFormed_of_decoded {utf8 : JsText} {bytes : Bytes}
    (h : decoded bytes = codeUnits utf8) : IsWellFormed utf8 := by
  rw [IsWellFormed, ← h, decoded, ofUtf16_flatMap]

theorem decoded_bufferFrom_iff (utf8 : JsText) :
    decoded (bufferFrom utf8) = codeUnits utf8 ↔ IsWellFormed utf8 := by
  rw [decoded, bufferFrom, utf8Decode_utf8Encode, IsWellFormed]

/-- The write leaves off within a U+FFFD that the string ends with. -/
def CutsReplacement (utf8 : JsText) (n : ℕ) : Prop :=
  Support.CutsReplacement (ofUtf16 (codeUnits utf8)) n

theorem decoded_take_iff (utf8 : JsText) (n : ℕ) :
    decoded ((bufferFrom utf8).take n) = codeUnits utf8 ↔
      IsWellFormed utf8 ∧
        ((bufferFrom utf8).length ≤ n ∨ CutsReplacement utf8 n) := by
  rw [bufferFrom, CutsReplacement, ← utf8Decode_take_eq_iff]
  constructor
  · intro h
    have hwell := isWellFormed_of_decoded h
    refine ⟨hwell, ?_⟩
    exact flatMap_utf16Char_injective (h.trans hwell.symm)
  · rintro ⟨hwell, hchars⟩
    rw [decoded, hchars]
    exact hwell

/-! ## All or nothing -/

/-- The write returns with the target holding the string, or throws with the target as it
was before. -/
def AllOrNothing (fault : Fault) (targetPath suffix : String) (utf8 : JsText)
    (files : Files) : Prop :=
  match outcome fault targetPath suffix utf8 files with
  | (.ok (), files') => files' targetPath = some (bufferFrom utf8)
  | (.error _, files') => files' targetPath = files targetPath

/-- The fault, or the string itself where nothing goes wrong, does no harm to a target
that holds `before`. -/
def Harmless (before : Option Bytes) (utf8 : JsText) : Fault → Prop
  | .nothing => IsWellFormed utf8 ∨ before = none
  | .writesOnly n =>
      if (bufferFrom utf8).length ≤ n then IsWellFormed utf8 ∨ before = none
      else before = none ∧ ¬(IsWellFormed utf8 ∧ CutsReplacement utf8 n)
  | .throws .readFileSync _ => before = some (bufferFrom utf8)
  | .throws .unlinkSync _ => IsWellFormed utf8 ∨ before = some (bufferFrom utf8)
  | .throws _ _ => True

/-- Where the read-back happens, what it compares decides. -/
theorem allOrNothing_of_silent {fault : Fault} (h : fault.silent = true)
    (targetPath suffix : String) (utf8 : JsText) (files : Files) :
    AllOrNothing fault targetPath suffix utf8 files ↔
      if decoded (fault.written (bufferFrom utf8)) = codeUnits utf8 then
        fault.written (bufferFrom utf8) = bufferFrom utf8
      else if fault.hits .unlinkSync then
        files targetPath = some (fault.written (bufferFrom utf8))
      else files targetPath = none := by
  have htarget := renamed_target fault targetPath suffix utf8 files
  rw [AllOrNothing, outcome_of_silent h, verifyReadBack_run h htarget]
  by_cases hmatches : decoded (fault.written (bufferFrom utf8)) = codeUnits utf8
  · rw [if_pos hmatches, if_pos hmatches]
    dsimp only
    rw [htarget, Option.some_inj]
  · rw [if_neg hmatches, if_neg hmatches]
    by_cases hunlink : fault.hits .unlinkSync = true
    · rw [if_pos hunlink, if_pos hunlink]
      dsimp only
      rw [htarget]
      exact eq_comm
    · rw [if_neg hunlink, if_neg hunlink]
      dsimp only
      rw [Function.update_self]
      exact eq_comm

/-- The write of all bytes. -/
theorem whole_iff (utf8 : JsText) (kept : Prop) :
    (if decoded (bufferFrom utf8) = codeUnits utf8 then bufferFrom utf8 = bufferFrom utf8
      else kept) ↔ IsWellFormed utf8 ∨ kept := by
  rw [← decoded_bufferFrom_iff]
  by_cases hwell : decoded (bufferFrom utf8) = codeUnits utf8
  · rw [if_pos hwell]
    exact ⟨fun _ => .inl hwell, fun _ => rfl⟩
  · rw [if_neg hwell]
    exact ⟨.inr, fun hor => hor.resolve_left hwell⟩

/-- The target is all or nothing after exactly the harmless faults. -/
theorem allOrNothing_iff (fault : Fault) (targetPath suffix : String) (utf8 : JsText)
    (files : Files) :
    AllOrNothing fault targetPath suffix utf8 files ↔
      Harmless (files targetPath) utf8 fault := by
  have hbefore (step : FsStep) (n : ℕ) (hstep : step.beforeReplacement = true) :
      AllOrNothing (.throws step n) targetPath suffix utf8 files := by
    obtain ⟨files', hrun, hkept⟩ := outcome_beforeReplacement hstep
    rw [AllOrNothing, hrun]
    exact hkept
  cases fault with
  | nothing =>
      rw [allOrNothing_of_silent rfl]
      exact whole_iff utf8 _
  | writesOnly n =>
      have hhits : (Fault.writesOnly n).hits .unlinkSync = false := rfl
      have hwritten : (Fault.writesOnly n).written (bufferFrom utf8) =
          (bufferFrom utf8).take n := rfl
      rw [allOrNothing_of_silent rfl, hhits, hwritten, Harmless, if_neg Bool.false_ne_true]
      by_cases hall : (bufferFrom utf8).length ≤ n
      · rw [if_pos hall, List.take_of_length_le hall]
        exact whole_iff utf8 _
      · have hshort : (bufferFrom utf8).take n ≠ bufferFrom utf8 := by
          intro heq
          have hlength := congrArg List.length heq
          rw [List.length_take] at hlength
          omega
        have hreads := decoded_take_iff utf8 n
        rw [or_iff_right hall] at hreads
        rw [if_neg hall, ← hreads]
        by_cases hmatches : decoded ((bufferFrom utf8).take n) = codeUnits utf8
        · rw [if_pos hmatches]
          exact ⟨fun heq => (hshort heq).elim, fun hnot => (hnot.2 hmatches).elim⟩
        · rw [if_neg hmatches]
          exact ⟨fun hnone => ⟨hnone, hmatches⟩, fun hnot => hnot.1⟩
  | throws step n =>
      cases step with
      | mkdirSync => exact iff_of_true (hbefore _ n rfl) trivial
      | openSync => exact iff_of_true (hbefore _ n rfl) trivial
      | writeSync => exact iff_of_true (hbefore _ n rfl) trivial
      | fsyncSync => exact iff_of_true (hbefore _ n rfl) trivial
      | closeSync => exact iff_of_true (hbefore _ n rfl) trivial
      | renameSync => exact iff_of_true (hbefore _ n rfl) trivial
      | readFileSync =>
          rw [AllOrNothing, outcome_readBackThrows]
          dsimp only
          rw [renamed_target]
          exact eq_comm
      | unlinkSync =>
          rw [allOrNothing_of_silent rfl]
          exact whole_iff utf8 _

/-- A write of two bytes of three: the old content is lost, and the function throws. -/
theorem shortWrite_loses_target :
    ¬∀ (fault : Fault) (targetPath suffix : String) (utf8 : JsText) (files : Files),
      AllOrNothing fault targetPath suffix utf8 files := by
  intro h
  have hall := h (.writesOnly 2) "lock.json" "0a" [97, 98, 99] fun _ => some [120]
  rw [allOrNothing_of_silent rfl] at hall
  revert hall
  decide

end AgentSkeptic.Quick.AtomicWrite

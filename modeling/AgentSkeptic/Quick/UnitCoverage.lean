import AgentSkeptic.Quick.IngestLayout
import AgentSkeptic.Quick.RunQuickVerify
import AgentSkeptic.Support.CappedSelection
import Mathlib.Data.Fin.Pigeonhole

/-!
# Which checks get a unit

The loops of a quick run are one loop over the planned checks (`runActions_eq`), and its
units belong to the first checks of their keys, up to the limit (`units_runActions`).
Since the loops stop before they push a unit too many, the header of a report never
tells that there were more.
-/

namespace AgentSkeptic.Quick

open AgentSkeptic.Support AgentSkeptic.Engine

/-! ## The actions of a text -/

def wholeActions (buf : List Char) : List RawAction := (parseJson buf).elim [] actionsOf

/-- The actions of the first slice that has one. -/
def sliceActions (buf : List Char) : List RawAction :=
  (((scanBalancedJsonObjects buf).map wholeActions).find? (!·.isEmpty)).getD []

def ladderActions (buf : List Char) : List RawAction :=
  if wholeActions buf ≠ [] then wholeActions buf
  else if (buf.splitOn '\n').flatMap lineActions ≠ [] then
    (buf.splitOn '\n').flatMap lineActions
  else sliceActions buf

/-- The structured actions of an input, without the limit on their number. -/
def structuredActions (inputUtf8 : List Char) : List RawAction :=
  let buf := ingestBuffer inputUtf8
  if trimChars buf = [] then [] else ladderActions buf

theorem ingestWhole_actions (buf : List Char) :
    (ingestWhole buf).map (·.actions) =
      if wholeActions buf = [] then none
      else some ((wholeActions buf).take maxActions) := by
  unfold wholeActions
  cases hparse : parseJson buf with
  | none => simp [ingestWhole_of_not_parse hparse]
  | some v =>
      rw [ingestWhole_of_parse hparse]
      by_cases hempty : actionsOf v = []
      · simp [hempty]
      · rw [if_neg (mt take_maxActions_eq_nil.mp hempty), Option.elim_some,
          if_neg hempty]

theorem findSome?_ingestWhole (slices : List (List Char)) :
    (slices.findSome? ingestWhole).elim [] (·.actions) =
      (((slices.map wholeActions).find? (!·.isEmpty)).getD []).take maxActions := by
  induction slices with
  | nil => rfl
  | cons slice slices ih =>
      have hwhole := ingestWhole_actions slice
      rw [List.findSome?_cons, List.map_cons]
      by_cases hempty : wholeActions slice = []
      · rw [if_pos hempty] at hwhole
        rw [Option.map_eq_none_iff.mp hwhole,
          List.find?_cons_of_neg (by simp [hempty])]
        exact ih
      · rw [if_neg hempty] at hwhole
        obtain ⟨ctx, hctx, hactions⟩ := Option.map_eq_some_iff.mp hwhole
        rw [hctx, List.find?_cons_of_pos (by simpa using hempty)]
        exact hactions

theorem ingestLadder_take (buf : List Char) :
    (ingestLadder buf).actions = (ladderActions buf).take maxActions := by
  have hwhole := ingestWhole_actions buf
  obtain ⟨hlines, -⟩ := ingestLines_spec buf
  rw [ingestLadder_actions, ladderActions]
  by_cases hempty : wholeActions buf = []
  · rw [if_pos hempty] at hwhole
    rw [Option.map_eq_none_iff.mp hwhole, if_neg (not_not.mpr hempty), hlines]
    by_cases hnone : (buf.splitOn '\n').flatMap lineActions = []
    · rw [if_neg (not_not.mpr (take_maxActions_eq_nil.mpr hnone)),
        if_neg (not_not.mpr hnone)]
      exact findSome?_ingestWhole _
    · rw [if_pos (mt take_maxActions_eq_nil.mp hnone), if_pos hnone]
  · rw [if_neg hempty] at hwhole
    obtain ⟨ctx, hctx, hactions⟩ := Option.map_eq_some_iff.mp hwhole
    rw [hctx, if_pos hempty]
    exact hactions

/-- What is ingested of an input that is short enough to be read. -/
theorem ingestActivityUtf8_take {inputUtf8 : List Char}
    (h : (ingestActivityUtf8 inputUtf8).inputTooLarge = false) :
    (ingestActivityUtf8 inputUtf8).actions =
      (structuredActions inputUtf8).take maxActions := by
  unfold ingestActivityUtf8 at h ⊢
  split_ifs at h ⊢ with hlarge
  dsimp only [structuredActions]
  by_cases hblank : trimChars (ingestBuffer inputUtf8) = []
  · rw [if_pos hblank, if_pos hblank]
    rfl
  · rw [if_neg hblank, if_neg hblank]
    exact ingestLadder_take _

/-! ## Planned checks -/

inductive CheckSubject where
  | row (bucket : ActionBucket)
  | relational (check : RelatedExistsCheck)

structure PlannedCheck where
  action : UniqueAction
  sourceAction : SourceAction
  subject : CheckSubject

/-- What a unit says it is about. -/
structure UnitTarget where
  kind : UnitKind
  sourceAction : SourceAction
  table : String
  /-- The foreign key of a relational check. -/
  fk : List String

def PlannedCheck.target (p : PlannedCheck) : UnitTarget :=
  match p.subject with
  | .row bucket => ⟨.row, p.sourceAction, bucket.tableName, []⟩
  | .relational check =>
      ⟨.relatedExists, p.sourceAction, check.childTable, ["FK " ++ check.id]⟩

def QuickUnit.target (u : QuickUnit) : UnitTarget :=
  ⟨u.kind, u.sourceAction, u.inference.table,
    if u.kind = .row then [] else u.inference.rationale⟩

/-- Relational checks of one foreign key have one key; a row has none. -/
def PlannedCheck.key (p : PlannedCheck) : Option String :=
  match p.subject with
  | .row _ => none
  | .relational check => some (relationalKey check)

section Run

variable (tables : TextTables) (catalog : SchemaCatalog) (dialect : SqlRowDialect)
  (db : ℕ → SqlConnection)

def actionChecks (item : UniqueAction × ℕ) : List PlannedCheck :=
  let action := item.1
  let sourceAction : SourceAction := ⟨action.toolName, item.2⟩
  (bucketsForAction action.toolName action.flat catalog.listTables).map
      (fun b => ⟨action, sourceAction, .row b⟩) ++
    (planRelationalFromFlat tables action.flat catalog.listFkEdges).map
      fun check => ⟨action, sourceAction, .relational check⟩

/-- Every bucket and every relational check of every action, in the order of the
loops. -/
def plannedChecks (unique : List UniqueAction) : List PlannedCheck :=
  unique.zipIdx.flatMap (actionChecks tables catalog)

/-- The checks that get a unit. -/
def givenChecks (planned : List PlannedCheck) : List PlannedCheck :=
  (firsts PlannedCheck.key [] planned).take maxUnits

/-- What a connection says of a check. -/
def checkVerdict (connection : SqlConnection) (p : PlannedCheck) : UnitVerdict :=
  match p.subject with
  | .row bucket =>
      match (planRowUnit tables catalog bucket catalog.listTables).request with
      | none => .uncertain
      | some req => (verifyRow tables dialect connection req).verdict
  | .relational check => (verifyRelatedExists tables dialect connection check).verdict

/-! ## The loops as one -/

def checkStep (st : RunState) (p : PlannedCheck) : RunState :=
  match p.subject with
  | .row bucket => bucketStep tables catalog dialect db p.action p.sourceAction st bucket
  | .relational check => relationalCheckStep tables dialect db p.sourceAction st check

theorem actionStep_eq (st : RunState) (item : UniqueAction × ℕ) :
    actionStep tables catalog dialect db st item =
      (actionChecks tables catalog item).foldl (checkStep tables catalog dialect db)
        st := by
  rw [actionChecks, List.foldl_append, List.foldl_map, List.foldl_map]
  rfl

theorem runActions_eq (unique : List UniqueAction) :
    runActions tables catalog dialect db unique =
      (plannedChecks tables catalog unique).foldl (checkStep tables catalog dialect db)
        .start := by
  rw [runActions, plannedChecks, List.foldl_flatMap]
  congr 1
  funext st item
  exact actionStep_eq tables catalog dialect db st item

/-- A pass of a loop that is not full pushes one unit. -/
theorem pushUnit_room {st : RunState} (u : QuickUnit) (h : st.units.length < maxUnits) :
    pushUnit u st = { st with units := st.units ++ [u] } :=
  if_neg (Nat.not_le.mpr h)

/-- An export leaves everything else as it is. -/
theorem elim_pushExport (exported : Option (ToolRegistryEntry × QuickContractExport))
    (st : RunState) :
    (exported.elim st fun e => pushExport e.1 e.2 st).units = st.units ∧
      (exported.elim st fun e => pushExport e.1 e.2 st).runHeaderReasonCodes =
        st.runHeaderReasonCodes ∧
      (exported.elim st fun e => pushExport e.1 e.2 st).relationalSeen =
        st.relationalSeen := by
  cases exported with
  | none => exact ⟨rfl, rfl, rfl⟩
  | some e => exact ⟨rfl, rfl, rfl⟩

/-- What a pass does that hands its check to the database. -/
structure GivesUnit (st : RunState) (p : PlannedCheck) (st' : RunState) : Prop where
  units : ∃ u : QuickUnit, st'.units = st.units ++ [u] ∧ u.target = p.target ∧
    u.verdict = checkVerdict tables catalog dialect (db st.units.length) p
  header : st'.runHeaderReasonCodes = st.runHeaderReasonCodes
  seen : st'.relationalSeen = p.key.toList ++ st.relationalSeen

/-- The request that a plan asks for when the columns of the key were found. -/
def mappedRequest (bucket : ActionBucket) (found : List IdentityMatch) :
    VerificationRequest :=
  let columns := (catalog.listColumns bucket.tableName).insertionSort fun a b =>
    utf16Le a b = true
  { table := bucket.tableName
    identityEq := found.map IdentityMatch.pair
    requiredFields := (columns.foldl (fieldStep tables (mappingEntries bucket)
      (keyColumns catalog bucket.tableName)) .empty).entries.entries }

theorem planRowUnit_request (bucket : ActionBucket) {req : VerificationRequest}
    (h : (planRowUnit tables catalog bucket catalog.listTables).request = some req) :
    ∃ found, ((keyColumns catalog bucket.tableName).insertionSort fun a b =>
        utf16Le a b = true).mapM (matchKeyColumn tables (mappingEntries bucket)) =
          .ok found ∧
      req = mappedRequest tables catalog bucket found := by
  have hcolumns : ∀ s1 codes rationale,
      (planColumns tables catalog bucket s1 codes rationale).request = some req →
        ∃ found, ((keyColumns catalog bucket.tableName).insertionSort fun a b =>
            utf16Le a b = true).mapM (matchKeyColumn tables (mappingEntries bucket)) =
              .ok found ∧
          req = mappedRequest tables catalog bucket found := by
    intro s1 codes rationale hrequest
    unfold planColumns at hrequest
    dsimp only at hrequest
    split_ifs at hrequest
    · cases hrequest
    · split at hrequest
      · cases hrequest
      · rename_i found hfound
        cases hrequest
        exact ⟨found, hfound, rfl⟩
  unfold planRowUnit at h
  dsimp only at h
  split_ifs at h
  · split at h
    · cases h
    · exact hcolumns _ _ _ h
  · exact hcolumns _ _ _ h

theorem planRowUnit_table (bucket : ActionBucket) {req : VerificationRequest}
    (h : (planRowUnit tables catalog bucket catalog.listTables).request = some req) :
    req.table = bucket.tableName := by
  obtain ⟨found, -, rfl⟩ := planRowUnit_request tables catalog bucket h
  rfl

theorem bucketStep_gives (st : RunState) (action : UniqueAction)
    (sourceAction : SourceAction) (bucket : ActionBucket)
    (h : st.units.length < maxUnits) :
    GivesUnit tables catalog dialect db st ⟨action, sourceAction, .row bucket⟩
      (bucketStep tables catalog dialect db action sourceAction st bucket) := by
  unfold bucketStep
  rw [if_neg (Nat.not_le.mpr h)]
  dsimp only
  split
  · rename_i hrequest
    rw [pushUnit_room _ h]
    refine ⟨⟨_, rfl, rfl, ?_⟩, rfl, rfl⟩
    simp only [checkVerdict, hrequest]
  · rename_i req hrequest
    have htable := planRowUnit_table tables catalog bucket hrequest
    obtain ⟨hunits, hheader, hseen⟩ := elim_pushExport
      (rowExport catalog action bucket
        (planRowUnit tables catalog bucket catalog.listTables) req
        (verifyRow tables dialect (db st.units.length) req).verdict
        (freshToolId ("quick:" ++ ("u" ++ toString st.units.length))
          (usedToolIds st))) st
    rw [pushUnit_room _ (by rw [hunits]; exact h)]
    refine ⟨⟨_, by dsimp only; rw [hunits], ?_, ?_⟩, hheader, hseen⟩
    · simp only [QuickUnit.target, PlannedCheck.target, htable, if_true]
    · simp only [checkVerdict, hrequest]

theorem relationalCheckStep_gives (st : RunState) (action : UniqueAction)
    (sourceAction : SourceAction) (check : RelatedExistsCheck)
    (h : st.units.length < maxUnits) (hnew : relationalKey check ∉ st.relationalSeen) :
    GivesUnit tables catalog dialect db st ⟨action, sourceAction, .relational check⟩
      (relationalCheckStep tables dialect db sourceAction st check) := by
  unfold relationalCheckStep
  rw [if_neg (Nat.not_le.mpr h), if_neg hnew]
  dsimp only
  obtain ⟨hunits, hheader, hseen⟩ := elim_pushExport
    (relationalExport check
      (verifyRelatedExists tables dialect (db st.units.length) check).verdict
      (usedToolIds st))
    { st with relationalSeen := relationalKey check :: st.relationalSeen }
  rw [pushUnit_room _ (by rw [hunits]; exact h)]
  exact ⟨⟨_, by dsimp only; rw [hunits], rfl, rfl⟩, hheader, hseen⟩

/-! ## The units of a run -/

theorem checkStep_full (st : RunState) (p : PlannedCheck)
    (h : maxUnits ≤ st.units.length) : checkStep tables catalog dialect db st p = st := by
  obtain ⟨action, sourceAction, subject⟩ := p
  cases subject with
  | row bucket => exact if_pos h
  | relational check => exact if_pos h

theorem checkStep_repeated (st : RunState) (p : PlannedCheck)
    (h : st.units.length < maxUnits) (hseen : p.key.any (· ∈ st.relationalSeen) = true) :
    checkStep tables catalog dialect db st p = st := by
  obtain ⟨action, sourceAction, subject⟩ := p
  cases subject with
  | row bucket => cases hseen
  | relational check =>
      have hkey : relationalKey check ∈ st.relationalSeen := of_decide_eq_true hseen
      dsimp only [checkStep]
      rw [relationalCheckStep, if_neg (Nat.not_le.mpr h), if_pos hkey]

theorem checkStep_gives (st : RunState) (p : PlannedCheck)
    (h : st.units.length < maxUnits) (hseen : p.key.any (· ∈ st.relationalSeen) = false) :
    GivesUnit tables catalog dialect db st p (checkStep tables catalog dialect db st p) := by
  obtain ⟨action, sourceAction, subject⟩ := p
  cases subject with
  | row bucket => exact bucketStep_gives tables catalog dialect db st action _ bucket h
  | relational check =>
      have hnew : relationalKey check ∉ st.relationalSeen := of_decide_eq_false hseen
      exact relationalCheckStep_gives tables catalog dialect db st action _ check h hnew

/-- The run as a loop with a limit: of a unit it keeps what it is about and its
verdict. -/
def unitLoop : CappedLoop RunState PlannedCheck (UnitTarget × UnitVerdict) String where
  limit := maxUnits
  key := PlannedCheck.key
  step := checkStep tables catalog dialect db
  kept st := st.units.map fun u => (u.target, u.verdict)
  seen := RunState.relationalSeen
  out k p := (p.target, checkVerdict tables catalog dialect (db k) p)
  full := by
    intro st p h
    rw [List.length_map] at h
    exact checkStep_full tables catalog dialect db st p h
  repeated := by
    intro st p h hseen
    rw [List.length_map] at h
    exact checkStep_repeated tables catalog dialect db st p h hseen
  fresh := by
    intro st p h hseen
    rw [List.length_map] at h ⊢
    obtain ⟨⟨u, hunits, htarget, hverdict⟩, -, hkeys⟩ :=
      checkStep_gives tables catalog dialect db st p h hseen
    refine ⟨?_, hkeys⟩
    rw [hunits, List.map_append, List.map_singleton, htarget, hverdict]

theorem units_runActions (unique : List UniqueAction) :
    (runActions tables catalog dialect db unique).units.map
        (fun u => (u.target, u.verdict)) =
      (givenChecks (plannedChecks tables catalog unique)).zipIdx.map fun p =>
        (p.1.target, checkVerdict tables catalog dialect (db p.2) p.1) := by
  rw [runActions_eq]
  exact (unitLoop tables catalog dialect db).kept_run _ rfl rfl

/-- The header never tells that there were more checks. -/
theorem runHeaderReasonCodes_eq_nil (unique : List UniqueAction) :
    (runActions tables catalog dialect db unique).runHeaderReasonCodes = [] := by
  have hstep : ∀ st p, (checkStep tables catalog dialect db st p).runHeaderReasonCodes =
      st.runHeaderReasonCodes := by
    intro st p
    rcases Nat.lt_or_ge st.units.length maxUnits with hroom | hfull
    · cases hseen : p.key.any (· ∈ st.relationalSeen) with
      | true => rw [checkStep_repeated tables catalog dialect db st p hroom hseen]
      | false => exact (checkStep_gives tables catalog dialect db st p hroom hseen).header
    · rw [checkStep_full tables catalog dialect db st p hfull]
  rw [runActions_eq]
  generalize plannedChecks tables catalog unique = planned
  have hrun : ∀ st : RunState, (planned.foldl (checkStep tables catalog dialect db)
      st).runHeaderReasonCodes = st.runHeaderReasonCodes := by
    induction planned with
    | nil =>
        intro st
        rfl
    | cons p planned ih =>
        intro st
        rw [List.foldl_cons, ih, hstep]
  exact hrun .start

/-! ## Checks with a unit of their own -/

/-- Different checks have different units, each about its check. -/
def EveryCheckHasUnit (planned : List PlannedCheck) (units : List QuickUnit) : Prop :=
  ∃ own : Fin planned.length → Fin units.length, Function.Injective own ∧
    ∀ i, (units.get (own i)).target = (planned.get i).target

theorem length_givenChecks (unique : List UniqueAction) :
    (runActions tables catalog dialect db unique).units.length =
      (givenChecks (plannedChecks tables catalog unique)).length := by
  have hlength := congrArg List.length
    (units_runActions tables catalog dialect db unique)
  simpa using hlength

theorem everyCheckHasUnit_iff (unique : List UniqueAction) :
    EveryCheckHasUnit (plannedChecks tables catalog unique)
        (runActions tables catalog dialect db unique).units ↔
      (plannedChecks tables catalog unique).length ≤ maxUnits ∧
        ((plannedChecks tables catalog unique).filterMap PlannedCheck.key).Nodup := by
  have hunits := units_runActions tables catalog dialect db unique
  have hlength := length_givenChecks tables catalog dialect db unique
  generalize (runActions tables catalog dialect db unique).units = units at *
  generalize plannedChecks tables catalog unique = planned at *
  constructor
  · rintro ⟨own, hinjective, -⟩
    have hcard : planned.length ≤ units.length := Fin.le_of_injective own hinjective
    have hgiven : (givenChecks planned).length ≤ planned.length :=
      ((List.take_sublist _ _).trans (firsts_sublist _ [] planned)).length_le
    apply (take_firsts_length_eq_iff PlannedCheck.key maxUnits planned).mp
    exact le_antisymm hgiven (hlength ▸ hcard)
  · rintro ⟨hlimit, hkeys⟩
    have hgiven : givenChecks planned = planned := take_firsts_eq _ hlimit hkeys
    rw [hgiven] at hunits hlength
    have htargets : units.map QuickUnit.target = planned.map PlannedCheck.target := by
      have hfirst := congrArg (List.map Prod.fst) hunits
      have hdrop : (planned.zipIdx.map fun p => p.1.target) =
          planned.map PlannedCheck.target := by
        conv_rhs => rw [← List.zipIdx_map_fst 0 planned, List.map_map]
        rfl
      simpa only [List.map_map, Function.comp_def, hdrop] using hfirst
    refine ⟨Fin.cast hlength.symm, Fin.cast_injective _, ?_⟩
    intro i
    have hi : ∃ u, units[i.val]? = some u ∧ u.target = (planned.get i).target := by
      simpa using congrArg (·[i.val]?) htargets
    obtain ⟨u, hu, htarget⟩ := hi
    obtain ⟨hlt, hget⟩ := List.getElem?_eq_some_iff.mp hu
    rw [← hget] at htarget
    exact htarget

/-! ## The verdict of a run -/

/-- There is a check, and the database confirms all of them. -/
def AllVerified (given : List PlannedCheck) : Prop :=
  given ≠ [] ∧ ∀ p ∈ given.zipIdx,
    checkVerdict tables catalog dialect (db p.2) p.1 = .verified

theorem rollupVerdict_pass_iff {units : List QuickUnit} {ingestCodes : List String}
    {hadActions : Bool} (h : units ≠ [] → hadActions = true) :
    rollupVerdict units ingestCodes hadActions = .pass ↔
      units ≠ [] ∧ ∀ u ∈ units, u.verdict = .verified := by
  unfold rollupVerdict
  constructor
  · intro hpass
    split_ifs at hpass with hnone hempty hfail hall
    exact ⟨hempty, by simpa using hall⟩
  · rintro ⟨hne, hall⟩
    have hnofail : ¬ units.any (·.verdict = .fail) = true := by
      rw [List.any_eq_true]
      rintro ⟨u, hu, hfail⟩
      rw [hall u hu] at hfail
      cases hfail
    rw [if_neg (by simp [h hne]), if_neg hne, if_neg hnofail, if_pos (by simpa using hall)]

theorem allVerified_iff (unique : List UniqueAction) :
    ((runActions tables catalog dialect db unique).units ≠ [] ∧
        ∀ u ∈ (runActions tables catalog dialect db unique).units,
          u.verdict = .verified) ↔
      AllVerified tables catalog dialect db
        (givenChecks (plannedChecks tables catalog unique)) := by
  have hunits := units_runActions tables catalog dialect db unique
  have hlength := length_givenChecks tables catalog dialect db unique
  generalize (runActions tables catalog dialect db unique).units = units at *
  have hverdicts : units.map (·.verdict) =
      (givenChecks (plannedChecks tables catalog unique)).zipIdx.map fun p =>
        checkVerdict tables catalog dialect (db p.2) p.1 := by
    have hsecond := congrArg (List.map Prod.snd) hunits
    simpa only [List.map_map, Function.comp_def] using hsecond
  apply and_congr
  · rw [ne_eq, ne_eq, ← List.length_eq_zero_iff, ← List.length_eq_zero_iff, hlength]
  · have hall : (∀ v ∈ units.map (·.verdict), v = UnitVerdict.verified) ↔
        ∀ v ∈ (givenChecks (plannedChecks tables catalog unique)).zipIdx.map fun p =>
          checkVerdict tables catalog dialect (db p.2) p.1, v = UnitVerdict.verified := by
      rw [hverdicts]
    rw [List.forall_mem_map, List.forall_mem_map] at hall
    exact hall

/-- The checks that a run plans. -/
def runChecks (inputUtf8 : List Char) : List PlannedCheck :=
  plannedChecks tables catalog
    (dedupeActions (ingestActivityUtf8 inputUtf8).actions).unique

theorem ingestLadder_inputTooLarge (buf : List Char) :
    (ingestLadder buf).inputTooLarge = false := by
  unfold ingestLadder
  split
  · rfl
  · dsimp only
    split_ifs
    · rfl
    · split
      · rfl
      · rfl

theorem inputTooLarge_actions {inputUtf8 : List Char}
    (h : (ingestActivityUtf8 inputUtf8).inputTooLarge = true) :
    (ingestActivityUtf8 inputUtf8).actions = [] := by
  unfold ingestActivityUtf8 at h ⊢
  split_ifs at h ⊢ with hlarge
  · rfl
  · dsimp only at h ⊢
    split_ifs at h ⊢ with hblank
    rw [ingestLadder_inputTooLarge] at h
    cases h

/-- Whatever the size of the input, the units are those of its actions. -/
theorem runQuickVerify_units (inputUtf8 : List Char) :
    (runQuickVerify tables catalog dialect db inputUtf8).report.units =
      (runActions tables catalog dialect db
        (dedupeActions (ingestActivityUtf8 inputUtf8).actions).unique).units := by
  unfold runQuickVerify
  dsimp only
  split_ifs with hlarge
  · rw [inputTooLarge_actions hlarge]
    rfl
  · rfl

theorem runQuickVerify_header (inputUtf8 : List Char) :
    (runQuickVerify tables catalog dialect db inputUtf8).report.runHeaderReasonCodes =
      [] := by
  unfold runQuickVerify
  dsimp only
  split_ifs with hlarge
  · rfl
  · exact runHeaderReasonCodes_eq_nil tables catalog dialect db _

theorem runQuickVerify_pass_iff (inputUtf8 : List Char) :
    (runQuickVerify tables catalog dialect db inputUtf8).report.verdict = .pass ↔
      AllVerified tables catalog dialect db
        (givenChecks (runChecks tables catalog inputUtf8)) := by
  rw [runChecks, ← allVerified_iff]
  unfold runQuickVerify
  dsimp only
  split_ifs with hlarge
  · rw [inputTooLarge_actions hlarge]
    constructor
    · intro h
      cases h
    · rintro ⟨hne, -⟩
      exact absurd rfl hne
  · apply rollupVerdict_pass_iff
    intro hne
    apply decide_eq_true
    intro hempty
    apply hne
    rw [hempty]
    rfl

/-! ## Nothing left out -/

/-- No work of a run is left out in silence. -/
structure NothingOmitted (inputUtf8 : List Char) : Prop where
  covered :
    EveryCheckHasUnit (runChecks tables catalog inputUtf8)
        (runQuickVerify tables catalog dialect db inputUtf8).report.units ∨
      "UNIT_CAP_EXCEEDED" ∈
        (runQuickVerify tables catalog dialect db inputUtf8).report.runHeaderReasonCodes
  capped : maxActions < (structuredActions inputUtf8).length →
    (runQuickVerify tables catalog dialect db inputUtf8).report.verdict ≠ .pass
  passed : (runQuickVerify tables catalog dialect db inputUtf8).report.verdict = .pass →
    (runQuickVerify tables catalog dialect db inputUtf8).report.units ≠ [] ∧
      ∀ u ∈ (runQuickVerify tables catalog dialect db inputUtf8).report.units,
        u.verdict = .verified

theorem covered_iff (inputUtf8 : List Char) :
    (EveryCheckHasUnit (runChecks tables catalog inputUtf8)
        (runQuickVerify tables catalog dialect db inputUtf8).report.units ∨
      "UNIT_CAP_EXCEEDED" ∈
        (runQuickVerify tables catalog dialect db
          inputUtf8).report.runHeaderReasonCodes) ↔
      (runChecks tables catalog inputUtf8).length ≤ maxUnits ∧
        ((runChecks tables catalog inputUtf8).filterMap PlannedCheck.key).Nodup := by
  rw [runQuickVerify_header, runQuickVerify_units, runChecks, everyCheckHasUnit_iff]
  simp

/-- Nothing is left out exactly when there are at most as many checks as units, no foreign
key is checked twice, and not all given checks are confirmed while actions beyond the
limit were dropped. -/
theorem nothingOmitted_iff (inputUtf8 : List Char) :
    NothingOmitted tables catalog dialect db inputUtf8 ↔
      ((runChecks tables catalog inputUtf8).length ≤ maxUnits ∧
        ((runChecks tables catalog inputUtf8).filterMap PlannedCheck.key).Nodup) ∧
      (maxActions < (structuredActions inputUtf8).length →
        ¬ AllVerified tables catalog dialect db
          (givenChecks (runChecks tables catalog inputUtf8))) := by
  have hcovered := covered_iff tables catalog dialect db inputUtf8
  have hpass := runQuickVerify_pass_iff tables catalog dialect db inputUtf8
  constructor
  · intro h
    refine ⟨hcovered.mp h.covered, ?_⟩
    intro hmany hverified
    exact h.capped hmany (hpass.mpr hverified)
  · rintro ⟨hfits, hcapped⟩
    refine ⟨hcovered.mpr hfits, ?_, ?_⟩
    · intro hmany hverdict
      exact hcapped hmany (hpass.mp hverdict)
    · intro hverdict
      rw [runQuickVerify_units]
      exact (allVerified_iff tables catalog dialect db _).mpr (hpass.mp hverdict)

end Run

/-! ## A foreign key that is checked once -/

def petTables : TextTables := ⟨id, utf16Le⟩

/-- Pets, each of an owner. -/
def petCatalog : SchemaCatalog :=
  { listTables := ["owners", "pets"]
    listColumns := fun table => if table = "pets" then ["id", "owner_id"] else ["id"]
    primaryKeyColumns := fun _ => ["id"]
    listUniqueConstraints := fun _ => []
    listFkEdges := [⟨"pets", "owner_id", "owners", "id"⟩] }

/-- Two adoptions by different owners. -/
def adoptions : List Char :=
  ("[\x7b\"toolId\":\"adopt\",\"params\":\x7b\"owner_id\":\"a\"\x7d\x7d," ++
    "\x7b\"toolId\":\"adopt\",\"params\":\x7b\"owner_id\":\"b\"\x7d\x7d]").toList

def emptyDatabase : SqlConnection := ⟨fun _ => .ok []⟩

/-- Whether a pet of the second owner exists is never asked, and nothing says so. -/
theorem second_owner_unchecked :
    ¬ NothingOmitted petTables petCatalog .sqlite (fun _ => emptyDatabase) adoptions := by
  have hkeys : (runChecks petTables petCatalog adoptions).filterMap PlannedCheck.key =
      ["pets\u0000owner_id", "pets\u0000owner_id"] := by
    decide +kernel
  intro h
  have hnodup := ((covered_iff petTables petCatalog .sqlite (fun _ => emptyDatabase)
    adoptions).mp h.covered).2
  rw [hkeys] at hnodup
  exact absurd hnodup (by decide)

end AgentSkeptic.Quick

import AgentSkeptic.Engine.StateWitness
import AgentSkeptic.Engine.Pipeline
import AgentSkeptic.Engine.Reconcilers
import AgentSkeptic.Support.InsertionMap

/-!
# Comparing two runs

The pairwise part of `runComparison.ts`.  Steps with a verification request are
aligned by their logical step key (bucket A); of the steps of a run that share a
key the one with the lowest `seq` stands for all, and each other one is reported
as an ambiguous resolution.  Failing steps without a request are compared as
multisets of recurrence signatures (bucket B).

`comparePairwise_accounts` says where a failing step of the current run is found.
-/

namespace AgentSkeptic.Engine

open AgentSkeptic.Support

def isFailing (status : StepStatus) : Bool := status ≠ .verified

def codesFromReasons (reasons : List Reason) : List String :=
  reasons.map Reason.code

/-! ## Logical step keys -/

def canonicalEqKey (pairs : List IdentityEqPair) : String :=
  "&".intercalate ((sortById IdentityEqPair.column pairs).map fun x =>
    x.column ++ "=" ++ x.value)

def AggregateFn.text : AggregateFn → String
  | countStar => "COUNT_STAR"
  | sum => "SUM"

def TableSide.text : TableSide → String
  | left => "left"
  | right => "right"

def sortedConditions (conditions : List String) : String :=
  "&".intercalate (sortById id conditions)

def relationalSegment (c : ResolvedRelationalCheck) : String :=
  "id|" ++ c.id ++ match c.body with
  | .relatedExists childTable matchEq =>
      "|related_exists|" ++ childTable ++ "|" ++ canonicalEqKey matchEq ++ "|"
  | .aggregate table fn sumColumn whereEq expectOp expectValue =>
      "|aggregate|" ++ table ++ "|" ++ fn.text ++ "|" ++ sumColumn.getD "" ++ "|" ++
        expectOp.text ++ "|" ++ expectValue.toText ++ "|" ++
        sortedConditions (whereEq.map fun x => x.column ++ "=" ++ x.value) ++ "|"
  | .antiJoin anchorTable lookupTable anchorColumn lookupColumn
      lookupPresenceColumn filterEqAnchor filterEqLookup =>
      "|anti_join|" ++ anchorTable ++ "|" ++ lookupTable ++ "|" ++ anchorColumn ++
        "|" ++ lookupColumn ++ "|" ++ lookupPresenceColumn ++ "|fa:" ++
        canonicalEqKey filterEqAnchor ++ "|fl:" ++ canonicalEqKey filterEqLookup ++
        "|"
  | .joinCount leftTable rightTable leftJoinColumn rightJoinColumn whereEq
      expectOp expectValue =>
      "|join_count|" ++ leftTable ++ "|" ++ rightTable ++ "|" ++ leftJoinColumn ++
        "|" ++ rightJoinColumn ++ "|" ++ expectOp.text ++ "|" ++
        expectValue.toText ++ "|" ++
        sortedConditions (whereEq.map fun x =>
          x.side.text ++ "." ++ x.column ++ "=" ++ x.value) ++ "|"

def effectSegment (ef : ResolvedEffect) : String :=
  "id|" ++ ef.id ++ "|" ++ ef.request.table ++ "|" ++
    canonicalEqKey ef.request.identityEq ++ "|"

/-- `JSON.stringify` of a filter, which is an object. -/
def stringifyFilter : JsValue → String
  | .json value => value.stringify
  | .objectPrototype => "\x7b\x7d"
  | _ => "undefined"

def witnessKey : StateWitnessRequest → String
  | .vectorDocument req =>
      "vector_document|" ++ req.provider.text ++ "|" ++ req.indexName ++ "|" ++
        req.documentId
  | .objectStorageObject req =>
      "object_storage_object|" ++ req.bucket ++ "|" ++ req.key
  | .httpWitness req =>
      "http_witness|" ++ req.method.text ++ "|" ++ req.url ++ "|" ++
        req.expectedStatus.toText
  | .mongoDocument req =>
      "mongo_document|" ++ req.collection ++ "|" ++ stringifyFilter req.filter

def requestKey : ResolvedRequest → String
  | .sqlRow vr => "sql_row|" ++ vr.table ++ "|" ++ canonicalEqKey vr.identityEq
  | .sqlRowAbsent vr =>
      "sql_row_absent|" ++ vr.table ++ "|" ++ canonicalEqKey vr.identityEq ++ "|" ++
        canonicalEqKey vr.filterEq
  | .sqlRelational checks =>
      "sql_relational|" ++ String.join
        ((sortById ResolvedRelationalCheck.id checks).map relationalSegment)
  | .sqlEffects effects =>
      "sql_effects|" ++ String.join
        ((sortById ResolvedEffect.id effects).map effectSegment)
  | .stateWitness vr => witnessKey vr

def logicalStepKeyFromStep (step : StepOutcome) : Option String :=
  step.verificationRequest.map requestKey

structure AmbiguousResolution where
  logicalStepKey : String
  chosenSeq : ℕ
  droppedSeq : ℕ

structure KeyMapResult where
  map : InsertionMap String StepOutcome
  ambiguous : List AmbiguousResolution

def addToKeyMap (acc : KeyMapResult) (step : StepOutcome) : KeyMapResult :=
  match logicalStepKeyFromStep step with
  | none => acc
  | some key =>
      match acc.map.get? key with
      | none => { acc with map := acc.map.set key step }
      | some existing =>
          if step.seq < existing.seq then
            { map := acc.map.set key step
              ambiguous := acc.ambiguous ++ [⟨key, step.seq, existing.seq⟩] }
          else
            { acc with
              ambiguous := acc.ambiguous ++ [⟨key, existing.seq, step.seq⟩] }

def buildLogicalStepKeyMap (steps : List StepOutcome) : KeyMapResult :=
  steps.foldl addToKeyMap ⟨.empty, []⟩

/-! ## Recurrence signatures -/

/-- An effect row as the evidence of a step holds it. -/
structure EvidenceEffect where
  id : String
  status : String
  codes : List String

def EvidenceEffect.failing (e : EvidenceEffect) : Bool := e.status ≠ "verified"

/-- The code of a reason; what has none counts as the empty text. -/
def evidenceReasonCode (reason : Json) : String :=
  match reason.member "code" with
  | .json (.str code) => code
  | _ => ""

def evidenceEffect? (e : Json) : Option EvidenceEffect :=
  match e.member "id", e.member "status", e.member "reasons" with
  | .json (.str id), .json (.str status), .json (.arr reasons) =>
      some ⟨id, status, reasons.map evidenceReasonCode⟩
  | .json (.str id), .json (.str status), _ => some ⟨id, status, []⟩
  | _, _, _ => none

def getEffectRows (step : StepOutcome) : Option (List EvidenceEffect) :=
  match ownMember step.evidenceSummary "effects" with
  | some (.arr raw) =>
      let out := raw.filterMap evidenceEffect?
      if out.length > 0 then some out else none
  | _ => none

def sortMultisetCodes (codes : List String) : List String := sortById id codes

/-- Failing effects only, in the order of their ids. -/
def recurrenceSignature (step : StepOutcome) : String :=
  let failing := ((getEffectRows step).getD []).filter EvidenceEffect.failing
  step.status.text ++ "|" ++
    ",".intercalate (sortMultisetCodes (codesFromReasons step.reasons)) ++
    String.join ((sortById EvidenceEffect.id failing).map fun e =>
      "|e:" ++ e.id ++ ":" ++ e.status ++ ":r:" ++
        ",".intercalate (sortMultisetCodes e.codes))

/-! ## Bucket A -/

inductive EffectDeltaKind where
  | introducedFailure | resolvedFailure | bothFailing | unchangedOk
  deriving DecidableEq

structure BucketAEffectDelta where
  effectId : String
  kind : EffectDeltaKind
  introducedReasonCodes : List String
  resolvedReasonCodes : List String
  statusPrior : Option String
  statusCurrent : Option String

inductive BucketAEntry where
  | unchangedOk (logicalStepKey : String) (seqPrior seqCurrent : ℕ)
      (toolIdPrior toolIdCurrent : String)
  | introducedFailure (logicalStepKey : String) (seqPrior seqCurrent : ℕ)
      (toolIdPrior toolIdCurrent : String)
  | resolvedFailure (logicalStepKey : String) (seqPrior seqCurrent : ℕ)
      (toolIdPrior toolIdCurrent : String)
  | bothFailing (logicalStepKey : String) (seqPrior seqCurrent : ℕ)
      (toolIdPrior toolIdCurrent : String) (toolIdChanged : Bool)
      (introducedStepReasonCodes resolvedStepReasonCodes : List String)
      (effects : List BucketAEffectDelta)
  | structuralRemoval (logicalStepKey : String) (seqPrior : ℕ)
      (toolIdPrior : String) (priorWasFailing : Bool)
  | structuralAddition (logicalStepKey : String) (seqCurrent : ℕ)
      (toolIdCurrent : String) (currentIsFailing : Bool)

def BucketAEntry.logicalStepKey : BucketAEntry → String
  | unchangedOk key .. | introducedFailure key .. | resolvedFailure key ..
  | bothFailing key .. | structuralRemoval key .. | structuralAddition key .. => key

/-- The codes of `current` that `prior` has not, with multiplicity. -/
def introducedCodes (prior current : List String) : List String :=
  ((InsertionMap.countKeys current).subtract (InsertionMap.countKeys prior)).expand

def effectDeltaKind (priorFails currentFails : Bool) : EffectDeltaKind :=
  match priorFails, currentFails with
  | false, false => .unchangedOk
  | false, true => .introducedFailure
  | true, false => .resolvedFailure
  | true, true => .bothFailing

def effectDelta (id : String) (prior current : Option EvidenceEffect) :
    Option BucketAEffectDelta :=
  match prior, current with
  | none, none => none
  | some ep, none =>
      some ⟨id, effectDeltaKind ep.failing false, [], sortMultisetCodes ep.codes,
        some ep.status, none⟩
  | none, some ec =>
      some ⟨id, effectDeltaKind false ec.failing, sortMultisetCodes ec.codes, [],
        none, some ec.status⟩
  | some ep, some ec =>
      some ⟨id, effectDeltaKind ep.failing ec.failing,
        introducedCodes ep.codes ec.codes, introducedCodes ec.codes ep.codes,
        some ep.status, some ec.status⟩

def effectsById (step : StepOutcome) : InsertionMap String EvidenceEffect :=
  .ofEntries (((getEffectRows step).getD []).map fun e => (e.id, e))

/-- `new Set([...a.keys(), ...b.keys()])`, sorted. -/
def unionKeys {α β : Type} (a : InsertionMap String α) (b : InsertionMap String β) :
    List String :=
  (InsertionMap.ofKeys (a.keys ++ b.keys)).sortedKeys

def effectDeltas (prior current : StepOutcome) : List BucketAEffectDelta :=
  let byP := effectsById prior
  let byC := effectsById current
  (unionKeys byP byC).filterMap fun id => effectDelta id (byP.get? id) (byC.get? id)

/-- A key that both runs have. -/
def alignedEntry (key : String) (sp sc : StepOutcome) : BucketAEntry :=
  match isFailing sp.status, isFailing sc.status with
  | false, false => .unchangedOk key sp.seq sc.seq sp.toolId sc.toolId
  | false, true => .introducedFailure key sp.seq sc.seq sp.toolId sc.toolId
  | true, false => .resolvedFailure key sp.seq sc.seq sp.toolId sc.toolId
  | true, true =>
      .bothFailing key sp.seq sc.seq sp.toolId sc.toolId (sp.toolId ≠ sc.toolId)
        (introducedCodes (codesFromReasons sp.reasons) (codesFromReasons sc.reasons))
        (introducedCodes (codesFromReasons sc.reasons) (codesFromReasons sp.reasons))
        (effectDeltas sp sc)

def bucketAEntry (key : String) (prior current : Option StepOutcome) :
    Option BucketAEntry :=
  match prior, current with
  | none, none => none
  | some sp, none =>
      some (.structuralRemoval key sp.seq sp.toolId (isFailing sp.status))
  | none, some sc =>
      some (.structuralAddition key sc.seq sc.toolId (isFailing sc.status))
  | some sp, some sc => some (alignedEntry key sp sc)

def compareBucketAEntry (a b : BucketAEntry) : Bool :=
  utf16Le a.logicalStepKey b.logicalStepKey

def bucketAOf (mapP mapC : InsertionMap String StepOutcome) : List BucketAEntry :=
  ((unionKeys mapP mapC).filterMap fun k =>
    bucketAEntry k (mapP.get? k) (mapC.get? k)).mergeSort compareBucketAEntry

/-! ## Bucket B -/

structure SignatureCount where
  signature : String
  count : ℕ

structure PairwiseBucketB where
  introducedFailureSignatures : List SignatureCount
  resolvedFailureSignatures : List SignatureCount
  unchangedFailureInstanceCounts : List SignatureCount

def failingSignatures (steps : List StepOutcome) : List String :=
  (steps.filter fun s => s.verificationRequest.isNone && isFailing s.status).map
    recurrenceSignature

def multisetToPairArray (m : InsertionMap String ℕ) : List SignatureCount :=
  m.sortedKeys.map fun k => ⟨k, m.multiplicity k⟩

def pairwiseBucketB (prior current : List StepOutcome) : PairwiseBucketB :=
  let mP := InsertionMap.countKeys (failingSignatures prior)
  let mC := InsertionMap.countKeys (failingSignatures current)
  let introduced := (mC.subtract mP).expand
  let resolved := (mP.subtract mC).expand
  { introducedFailureSignatures :=
      multisetToPairArray (InsertionMap.countKeys introduced)
    resolvedFailureSignatures :=
      multisetToPairArray (InsertionMap.countKeys resolved)
    unchangedFailureInstanceCounts := (unionKeys mP mC).filterMap fun sig =>
      let n := min (mP.multiplicity sig) (mC.multiplicity sig)
      if n > 0 then some ⟨sig, n⟩ else none }

/-! ## The comparison -/

structure PairwiseComparison where
  introducedRunLevelCodes : List String
  resolvedRunLevelCodes : List String
  ambiguousLogicalKeyResolutions : List AmbiguousResolution
  bucketA : List BucketAEntry
  bucketB : PairwiseBucketB

/-- The `pairwise` part of the report. -/
def comparePairwise (prior current : WorkflowEngineResult) : PairwiseComparison :=
  let keyMapP := buildLogicalStepKeyMap prior.steps
  let keyMapC := buildLogicalStepKeyMap current.steps
  let codesP := codesFromReasons prior.runLevelReasons
  let codesC := codesFromReasons current.runLevelReasons
  { introducedRunLevelCodes := introducedCodes codesP codesC
    resolvedRunLevelCodes := introducedCodes codesC codesP
    ambiguousLogicalKeyResolutions :=
      sortById AmbiguousResolution.logicalStepKey
        (keyMapP.ambiguous ++ keyMapC.ambiguous)
    bucketA := bucketAOf keyMapP.map keyMapC.map
    bucketB := pairwiseBucketB prior.steps current.steps }

/-! ## The step that stands for a key -/

/-- Of the steps that have the key, the first one with the lowest `seq`. -/
def StandsFor (steps : List StepOutcome) (key : String) (chosen : StepOutcome) :
    Prop :=
  ∃ before after, steps = before ++ chosen :: after ∧
    logicalStepKeyFromStep chosen = some key ∧
    (∀ s ∈ before, logicalStepKeyFromStep s = some key → chosen.seq < s.seq) ∧
    ∀ s ∈ after, logicalStepKeyFromStep s = some key → chosen.seq ≤ s.seq

theorem StandsFor.seq_le {steps : List StepOutcome} {key : String}
    {chosen step : StepOutcome} (h : StandsFor steps key chosen)
    (hstep : step ∈ steps) (hkey : logicalStepKeyFromStep step = some key) :
    chosen.seq ≤ step.seq := by
  obtain ⟨before, after, rfl, -, hbefore, hafter⟩ := h
  rcases List.mem_append.mp hstep with hmem | hmem
  · exact (hbefore step hmem hkey).le
  · rcases List.mem_cons.mp hmem with rfl | hmem
    · exact le_refl _
    · exact hafter step hmem hkey

/-- A step with another key, or not below the one that stands, changes nothing. -/
theorem StandsFor.append {steps : List StepOutcome} {key : String}
    {chosen step : StepOutcome} (h : StandsFor steps key chosen)
    (hstep : logicalStepKeyFromStep step = some key → chosen.seq ≤ step.seq) :
    StandsFor (steps ++ [step]) key chosen := by
  obtain ⟨before, after, rfl, hkey, hbefore, hafter⟩ := h
  refine ⟨before, after ++ [step], by simp, hkey, hbefore, ?_⟩
  intro s hs hskey
  rcases List.mem_append.mp hs with hmem | hmem
  · exact hafter s hmem hskey
  · obtain rfl := List.mem_singleton.mp hmem
    exact hstep hskey

theorem StandsFor.last {steps : List StepOutcome} {key : String}
    {step : StepOutcome} (hkey : logicalStepKeyFromStep step = some key)
    (hbelow : ∀ s ∈ steps, logicalStepKeyFromStep s = some key → step.seq < s.seq) :
    StandsFor (steps ++ [step]) key step := by
  refine ⟨steps, [], rfl, hkey, hbelow, ?_⟩
  intro s hs
  cases hs

/-- What the map and the ambiguous resolutions say of the steps walked over. -/
structure KeyMapResult.Represents (acc : KeyMapResult) (steps : List StepOutcome) :
    Prop where
  chosen : ∀ key s, acc.map.get? key = some s → StandsFor steps key s
  covered : ∀ step ∈ steps, ∀ key, logicalStepKeyFromStep step = some key →
    ∃ s, acc.map.get? key = some s ∧
      (s = step ∨ ∃ r ∈ acc.ambiguous,
        r.logicalStepKey = key ∧ r.droppedSeq = step.seq)

/-- A step of a key that the map does not have. -/
theorem KeyMapResult.Represents.add_new {acc : KeyMapResult}
    {steps : List StepOutcome} (h : acc.Represents steps) {step : StepOutcome}
    {key : String} (hkey : logicalStepKeyFromStep step = some key)
    (hnone : acc.map.get? key = none) :
    KeyMapResult.Represents { acc with map := acc.map.set key step }
      (steps ++ [step]) where
  chosen := by
    intro k s hs
    rw [InsertionMap.get?_set] at hs
    split_ifs at hs with hk
    · obtain rfl := Option.some.inj hs
      subst hk
      apply StandsFor.last hkey
      intro s hmem hskey
      obtain ⟨s', hs', -⟩ := h.covered s hmem key hskey
      rw [hnone] at hs'
      cases hs'
    · apply (h.chosen k s hs).append
      intro hkey'
      exact absurd (Option.some.inj (hkey.symm.trans hkey')) hk
  covered := by
    intro s hs k hk
    rw [InsertionMap.get?_set]
    rcases List.mem_append.mp hs with hmem | hmem
    · obtain ⟨s', hs', hcovered⟩ := h.covered s hmem k hk
      have hne : key ≠ k := by
        rintro rfl
        rw [hnone] at hs'
        cases hs'
      rw [if_neg hne]
      exact ⟨s', hs', hcovered⟩
    · obtain rfl := List.mem_singleton.mp hmem
      rw [if_pos (Option.some.inj (hkey.symm.trans hk))]
      exact ⟨s, rfl, Or.inl rfl⟩

/-- A step below the one that stood for its key takes its place. -/
theorem KeyMapResult.Represents.add_below {acc : KeyMapResult}
    {steps : List StepOutcome} (h : acc.Represents steps)
    {step existing : StepOutcome} {key : String}
    (hkey : logicalStepKeyFromStep step = some key)
    (hsome : acc.map.get? key = some existing) (hlt : step.seq < existing.seq) :
    KeyMapResult.Represents
      { map := acc.map.set key step
        ambiguous := acc.ambiguous ++ [⟨key, step.seq, existing.seq⟩] }
      (steps ++ [step]) where
  chosen := by
    intro k s hs
    rw [InsertionMap.get?_set] at hs
    split_ifs at hs with hk
    · obtain rfl := Option.some.inj hs
      subst hk
      apply StandsFor.last hkey
      intro s hmem hskey
      have hle := (h.chosen key existing hsome).seq_le hmem hskey
      omega
    · apply (h.chosen k s hs).append
      intro hkey'
      exact absurd (Option.some.inj (hkey.symm.trans hkey')) hk
  covered := by
    intro s hs k hk
    rw [InsertionMap.get?_set]
    rcases List.mem_append.mp hs with hmem | hmem
    · obtain ⟨s', hs', hcovered⟩ := h.covered s hmem k hk
      split_ifs with hkk
      · subst hkk
        obtain rfl : existing = s' := Option.some.inj (hsome.symm.trans hs')
        refine ⟨step, rfl, Or.inr ?_⟩
        rcases hcovered with rfl | ⟨r, hr, hrkey, hrseq⟩
        · exact ⟨_, List.mem_append_right _ (List.mem_singleton_self _), rfl, rfl⟩
        · exact ⟨r, List.mem_append_left _ hr, hrkey, hrseq⟩
      · refine ⟨s', hs', ?_⟩
        rcases hcovered with rfl | ⟨r, hr, hrkey, hrseq⟩
        · exact Or.inl rfl
        · exact Or.inr ⟨r, List.mem_append_left _ hr, hrkey, hrseq⟩
    · obtain rfl := List.mem_singleton.mp hmem
      rw [if_pos (Option.some.inj (hkey.symm.trans hk))]
      exact ⟨s, rfl, Or.inl rfl⟩

/-- A step that is not below the one that stands for its key is dropped. -/
theorem KeyMapResult.Represents.add_dropped {acc : KeyMapResult}
    {steps : List StepOutcome} (h : acc.Represents steps)
    {step existing : StepOutcome} {key : String}
    (hkey : logicalStepKeyFromStep step = some key)
    (hsome : acc.map.get? key = some existing) (hle : existing.seq ≤ step.seq) :
    KeyMapResult.Represents
      { acc with
        ambiguous := acc.ambiguous ++ [⟨key, existing.seq, step.seq⟩] }
      (steps ++ [step]) where
  chosen := by
    intro k s hs
    apply (h.chosen k s hs).append
    intro hkey'
    obtain rfl := Option.some.inj (hkey.symm.trans hkey')
    obtain rfl := Option.some.inj (hsome.symm.trans hs)
    exact hle
  covered := by
    intro s hs k hk
    rcases List.mem_append.mp hs with hmem | hmem
    · obtain ⟨s', hs', hcovered⟩ := h.covered s hmem k hk
      refine ⟨s', hs', ?_⟩
      rcases hcovered with rfl | ⟨r, hr, hrkey, hrseq⟩
      · exact Or.inl rfl
      · exact Or.inr ⟨r, List.mem_append_left _ hr, hrkey, hrseq⟩
    · obtain rfl := List.mem_singleton.mp hmem
      obtain rfl := Option.some.inj (hkey.symm.trans hk)
      refine ⟨existing, hsome, Or.inr ?_⟩
      exact ⟨_, List.mem_append_right _ (List.mem_singleton_self _), rfl, rfl⟩

theorem KeyMapResult.Represents.addToKeyMap {acc : KeyMapResult}
    {steps : List StepOutcome} (h : acc.Represents steps) (step : StepOutcome) :
    (Engine.addToKeyMap acc step).Represents (steps ++ [step]) := by
  unfold Engine.addToKeyMap
  rcases hkey : logicalStepKeyFromStep step with _ | key
  · have hother : ∀ k, logicalStepKeyFromStep step ≠ some k := by
      intro k hk
      rw [hkey] at hk
      cases hk
    constructor
    · intro k s hs
      exact (h.chosen k s hs).append fun hk => absurd hk (hother k)
    · intro s hs k hk
      rcases List.mem_append.mp hs with hmem | hmem
      · exact h.covered s hmem k hk
      · obtain rfl := List.mem_singleton.mp hmem
        exact absurd hk (hother k)
  · dsimp only
    rcases hget : acc.map.get? key with _ | existing
    · exact h.add_new hkey hget
    · dsimp only
      split_ifs with hlt
      · exact h.add_below hkey hget hlt
      · exact h.add_dropped hkey hget (not_lt.mp hlt)

theorem buildLogicalStepKeyMap_represents (steps : List StepOutcome) :
    (buildLogicalStepKeyMap steps).Represents steps := by
  induction steps using List.reverseRecOn with
  | nil =>
      constructor
      · intro key s hs
        cases hs
      · intro step hstep
        cases hstep
  | append_singleton steps step ih =>
      unfold buildLogicalStepKeyMap at ih ⊢
      rw [List.foldl_append]
      exact ih.addToKeyMap step

/-! ## Failures of the current run -/

/-- The entry reports a failure of the current run. -/
def BucketAEntry.currentFails : BucketAEntry → Bool
  | introducedFailure .. | bothFailing .. => true
  | structuralAddition _ _ _ currentIsFailing => currentIsFailing
  | _ => false

theorem bucketAEntry_current (key : String) (prior : Option StepOutcome)
    (sc : StepOutcome) : ∃ e, bucketAEntry key prior (some sc) = some e ∧
      e.logicalStepKey = key ∧ e.currentFails = isFailing sc.status := by
  rcases prior with _ | sp
  · exact ⟨_, rfl, rfl, rfl⟩
  · refine ⟨_, rfl, ?_⟩
    unfold alignedEntry
    split
    · rename_i hcurrent
      exact ⟨rfl, hcurrent.symm⟩
    · rename_i hcurrent
      exact ⟨rfl, hcurrent.symm⟩
    · rename_i hcurrent
      exact ⟨rfl, hcurrent.symm⟩
    · rename_i hcurrent
      exact ⟨rfl, hcurrent.symm⟩

/-- The step that stands for a key has its entry. -/
theorem exists_bucketA_entry {mapP mapC : InsertionMap String StepOutcome}
    {key : String} {sc : StepOutcome} (h : mapC.get? key = some sc) :
    ∃ e ∈ bucketAOf mapP mapC,
      e.logicalStepKey = key ∧ e.currentFails = isFailing sc.status := by
  obtain ⟨e, he, hkey, hfails⟩ := bucketAEntry_current key (mapP.get? key) sc
  have hmem : key ∈ unionKeys mapP mapC := by
    apply InsertionMap.mem_sortedKeys.mpr
    apply InsertionMap.mem_keys_ofKeys.mpr
    exact List.mem_append_right _ (InsertionMap.mem_keys_of_get? h)
  refine ⟨e, ?_, hkey, hfails⟩
  apply List.mem_mergeSort.mpr
  apply List.mem_filterMap.mpr
  refine ⟨key, hmem, ?_⟩
  rw [h]
  exact he

/-- Where a failing step with a request is reported. -/
def FailureReported (comparison : PairwiseComparison) (steps : List StepOutcome)
    (step : StepOutcome) (key : String) : Prop :=
  (∃ e ∈ comparison.bucketA, e.logicalStepKey = key ∧ e.currentFails = true) ∨
    ∃ chosen, StandsFor steps key chosen ∧ chosen.status = .verified ∧
      chosen.seq ≤ step.seq ∧
      ∃ r ∈ comparison.ambiguousLogicalKeyResolutions,
        r.logicalStepKey = key ∧ r.droppedSeq = step.seq

theorem failureReported {prior current : WorkflowEngineResult} {step : StepOutcome}
    (hstep : step ∈ current.steps) (hfailing : isFailing step.status = true)
    {key : String} (hkey : logicalStepKeyFromStep step = some key) :
    FailureReported (comparePairwise prior current) current.steps step key := by
  have hrepresents := buildLogicalStepKeyMap_represents current.steps
  obtain ⟨chosen, hchosen, hcovered⟩ := hrepresents.covered step hstep key hkey
  obtain ⟨e, he, hekey, hefails⟩ := @exists_bucketA_entry
    (buildLogicalStepKeyMap prior.steps).map _ _ _ hchosen
  by_cases hchosenFails : isFailing chosen.status = true
  · exact Or.inl ⟨e, he, hekey, hefails.trans hchosenFails⟩
  · right
    have hstands := hrepresents.chosen key chosen hchosen
    rcases hcovered with rfl | ⟨r, hr, hrkey, hrseq⟩
    · exact absurd hfailing hchosenFails
    · refine ⟨chosen, hstands, by simpa [isFailing] using hchosenFails,
        hstands.seq_le hstep hkey, r, ?_, hrkey, hrseq⟩
      apply (List.mem_insertionSort _).mpr
      exact List.mem_append_right _ hr

/-! ## Signatures -/

def countOf (rows : List SignatureCount) (sig : String) : ℕ :=
  ((rows.filter (·.signature = sig)).map SignatureCount.count).sum

theorem countOf_map {ks : List String} (h : ks.Nodup) (n : String → ℕ)
    (sig : String) :
    countOf (ks.map fun k => ⟨k, n k⟩) sig = if sig ∈ ks then n sig else 0 := by
  induction ks with
  | nil => rfl
  | cons k ks ih =>
      obtain ⟨hk, hks⟩ := List.nodup_cons.mp h
      have htail := ih hks
      unfold countOf at htail ⊢
      by_cases hsig : k = sig
      · subst hsig
        rw [if_neg hk] at htail
        simp [htail]
      · have hne : sig ≠ k := fun heq => hsig heq.symm
        simpa [hsig, hne] using htail

theorem countOf_multisetToPairArray (m : InsertionMap String ℕ) (sig : String) :
    countOf (multisetToPairArray m) sig = m.multiplicity sig := by
  rw [multisetToPairArray, countOf_map m.nodup_sortedKeys]
  split_ifs with hsig
  · rfl
  · have hkey : sig ∉ m.keys := fun hmem =>
      hsig (InsertionMap.mem_sortedKeys.mpr hmem)
    rw [InsertionMap.multiplicity, InsertionMap.not_mem_keys_iff.mp hkey]
    rfl

theorem countOf_filterMap {ks : List String} (n : String → ℕ) (sig : String) :
    countOf (ks.filterMap fun k => if n k > 0 then some ⟨k, n k⟩ else none) sig =
      countOf (ks.map fun k => ⟨k, n k⟩) sig := by
  induction ks with
  | nil => rfl
  | cons k ks ih =>
      unfold countOf at ih ⊢
      rw [List.filterMap_cons, List.map_cons]
      by_cases hn : n k > 0
      · by_cases hsig : k = sig
        · subst hsig
          simpa [hn, List.filter_cons] using ih
        · simpa [hn, hsig, List.filter_cons] using ih
      · have hzero : n k = 0 := by omega
        by_cases hsig : k = sig
        · subst hsig
          simpa [hzero, List.filter_cons] using ih
        · simpa [hzero, hsig, List.filter_cons] using ih

/-- Per signature, the counts of the three lists. -/
theorem pairwiseBucketB_counts (prior current : List StepOutcome) (sig : String) :
    let bucketB := pairwiseBucketB prior current
    countOf bucketB.introducedFailureSignatures sig =
        (failingSignatures current).count sig - (failingSignatures prior).count sig ∧
      countOf bucketB.resolvedFailureSignatures sig =
        (failingSignatures prior).count sig - (failingSignatures current).count sig ∧
      countOf bucketB.unchangedFailureInstanceCounts sig =
        min ((failingSignatures prior).count sig)
          ((failingSignatures current).count sig) := by
  dsimp only [pairwiseBucketB]
  refine ⟨?_, ?_, ?_⟩
  · rw [countOf_multisetToPairArray]
    simp
  · rw [countOf_multisetToPairArray]
    simp
  · rw [countOf_filterMap, countOf_map]
    · split_ifs with hsig
      · simp
      · have hnot : sig ∉ failingSignatures prior := by
          intro hmem
          apply hsig
          apply InsertionMap.mem_sortedKeys.mpr
          simp [hmem]
        have hzero := List.count_eq_zero_of_not_mem hnot
        omega
    · exact InsertionMap.nodup_sortedKeys _

theorem count_failingSignatures (steps : List StepOutcome) (sig : String) :
    (failingSignatures steps).count sig = steps.countP fun s =>
      s.verificationRequest.isNone && isFailing s.status &&
        recurrenceSignature s == sig := by
  rw [failingSignatures, List.count, List.countP_map, List.countP_filter]
  congr 1
  funext s
  simp only [Function.comp_apply]
  rw [Bool.and_comm]

/-! ## Exchanging the runs -/

def EffectDeltaKind.swapped : EffectDeltaKind → EffectDeltaKind
  | introducedFailure => resolvedFailure
  | resolvedFailure => introducedFailure
  | bothFailing => bothFailing
  | unchangedOk => unchangedOk

def BucketAEffectDelta.swapped (d : BucketAEffectDelta) : BucketAEffectDelta :=
  ⟨d.effectId, d.kind.swapped, d.resolvedReasonCodes, d.introducedReasonCodes,
    d.statusCurrent, d.statusPrior⟩

def BucketAEntry.swapped : BucketAEntry → BucketAEntry
  | unchangedOk key seqP seqC toolP toolC => .unchangedOk key seqC seqP toolC toolP
  | introducedFailure key seqP seqC toolP toolC =>
      .resolvedFailure key seqC seqP toolC toolP
  | resolvedFailure key seqP seqC toolP toolC =>
      .introducedFailure key seqC seqP toolC toolP
  | bothFailing key seqP seqC toolP toolC changed introduced resolved effects =>
      .bothFailing key seqC seqP toolC toolP changed resolved introduced
        (effects.map BucketAEffectDelta.swapped)
  | structuralRemoval key seqP toolP failing =>
      .structuralAddition key seqP toolP failing
  | structuralAddition key seqC toolC failing =>
      .structuralRemoval key seqC toolC failing

theorem unionKeys_comm {α β : Type} (a : InsertionMap String α)
    (b : InsertionMap String β) : unionKeys a b = unionKeys b a := by
  apply sortUtf16_eq_of_perm
  apply (List.perm_ext_iff_of_nodup (InsertionMap.nodup _)
    (InsertionMap.nodup _)).mpr
  intro k
  have hleft : k ∈ (InsertionMap.ofKeys (a.keys ++ b.keys)).keys ↔
      k ∈ a.keys ++ b.keys := InsertionMap.mem_keys_ofKeys
  have hright : k ∈ (InsertionMap.ofKeys (b.keys ++ a.keys)).keys ↔
      k ∈ b.keys ++ a.keys := InsertionMap.mem_keys_ofKeys
  rw [InsertionMap.keys] at hleft hright
  rw [hleft, hright, List.mem_append, List.mem_append, or_comm]

theorem effectDeltaKind_swapped (a b : Bool) :
    effectDeltaKind b a = (effectDeltaKind a b).swapped := by
  cases a <;> cases b <;> rfl

theorem effectDelta_swapped (id : String) (ep ec : Option EvidenceEffect) :
    effectDelta id ec ep = (effectDelta id ep ec).map BucketAEffectDelta.swapped := by
  rcases ep with _ | ep
  · rcases ec with _ | ec
    · rfl
    · simp [effectDelta, BucketAEffectDelta.swapped, ← effectDeltaKind_swapped]
  · rcases ec with _ | ec
    · simp [effectDelta, BucketAEffectDelta.swapped, ← effectDeltaKind_swapped]
    · simp [effectDelta, BucketAEffectDelta.swapped, ← effectDeltaKind_swapped]

theorem effectDeltas_swapped (sp sc : StepOutcome) :
    effectDeltas sc sp = (effectDeltas sp sc).map BucketAEffectDelta.swapped := by
  dsimp only [effectDeltas]
  rw [unionKeys_comm, List.map_filterMap]
  simp only [effectDelta_swapped _ ((effectsById sp).get? _)]

theorem alignedEntry_swapped (key : String) (sp sc : StepOutcome) :
    alignedEntry key sc sp = (alignedEntry key sp sc).swapped := by
  unfold alignedEntry
  rcases isFailing sp.status with _ | _
  · rcases isFailing sc.status with _ | _
    · rfl
    · rfl
  · rcases isFailing sc.status with _ | _
    · rfl
    · simp only [BucketAEntry.swapped, effectDeltas_swapped sp sc, ne_comm]

theorem bucketAEntry_swapped (key : String) (sp sc : Option StepOutcome) :
    bucketAEntry key sc sp = (bucketAEntry key sp sc).map BucketAEntry.swapped := by
  rcases sp with _ | sp
  · rcases sc with _ | sc
    · rfl
    · rfl
  · rcases sc with _ | sc
    · rfl
    · simp [bucketAEntry, alignedEntry_swapped key sp sc]

theorem swapped_logicalStepKey (e : BucketAEntry) :
    e.swapped.logicalStepKey = e.logicalStepKey := by
  cases e <;> rfl

theorem bucketAOf_swapped (mapP mapC : InsertionMap String StepOutcome) :
    bucketAOf mapC mapP = (bucketAOf mapP mapC).map BucketAEntry.swapped := by
  unfold bucketAOf
  rw [List.map_mergeSort (s := compareBucketAEntry), unionKeys_comm,
    List.map_filterMap]
  · simp only [bucketAEntry_swapped _ (mapP.get? _)]
  · intro a _ b _
    simp [compareBucketAEntry, swapped_logicalStepKey]

theorem unchangedCounts_comm (prior current : List StepOutcome) :
    (pairwiseBucketB current prior).unchangedFailureInstanceCounts =
      (pairwiseBucketB prior current).unchangedFailureInstanceCounts := by
  dsimp only [pairwiseBucketB]
  rw [unionKeys_comm]
  simp only [min_comm]

/-! ## A failure behind a verified step of the same key -/

/-- A check of one row of `contacts`. -/
def contactStep (seq : ℕ) (status : StepStatus) (reasons : List Reason) :
    StepOutcome :=
  { seq
    toolId := "crm.upsert"
    releaseCritical := false
    intendedEffect := ""
    observedExecution := ""
    verificationRequest := some (.sqlRow ⟨"contacts", [⟨"id", "a"⟩], []⟩)
    status
    reasons
    evidenceSummary := []
    repeatObservationCount := 1
    evaluatedObservationOrdinal := 1
    failureDiagnostic := none
    langgraphCheckpointKey := none }

def contactVerified : StepOutcome := contactStep 0 .verified []

def contactAbsent : StepOutcome :=
  contactStep 1 .missing
    [⟨SqlVerificationOutcomeCode.rowAbsent.code, "No row matched key", none⟩]

def contactRun (status : WorkflowStatus) (steps : List StepOutcome) :
    WorkflowEngineResult :=
  { workflowId := "crm", status, runLevelReasons := [], steps }

/-- No entry of bucket A reports the absent row, whose key a verified step of
lower `seq` stands for. -/
theorem bucketA_hides_absent :
    let prior := contactRun .complete [contactVerified]
    let current := contactRun .inconsistent [contactVerified, contactAbsent]
    contactAbsent ∈ current.steps ∧ isFailing contactAbsent.status = true ∧
      contactAbsent.verificationRequest.isSome = true ∧
      ∀ e ∈ (comparePairwise prior current).bucketA, e.currentFails = false := by
  refine ⟨by simp [contactRun], rfl, rfl, ?_⟩
  have hall : ((comparePairwise (contactRun .complete [contactVerified])
      (contactRun .inconsistent [contactVerified, contactAbsent])).bucketA.all
        fun e => !e.currentFails) = true := by
    decide +kernel
  simpa using hall

/-- Every failing step of the current run is found in the comparison.  One with a
request has an entry of its key that reports a failure of the current run, unless
the step that stands for the key is verified, is not above it in `seq`, and the
step is reported as dropped.  Those without a request are counted per signature.
Exchanging the runs exchanges introduced with resolved and additions with
removals. -/
theorem comparePairwise_accounts (prior current : WorkflowEngineResult) :
    let comparison := comparePairwise prior current
    let swapped := comparePairwise current prior
    (∀ step ∈ current.steps, isFailing step.status = true →
        ∀ key, logicalStepKeyFromStep step = some key →
          FailureReported comparison current.steps step key) ∧
      (∀ sig,
        let bucketB := comparison.bucketB
        let failures (steps : List StepOutcome) := steps.countP fun s =>
          s.verificationRequest.isNone && isFailing s.status &&
            recurrenceSignature s == sig
        let unchanged := countOf bucketB.unchangedFailureInstanceCounts sig
        failures current.steps =
            unchanged + countOf bucketB.introducedFailureSignatures sig ∧
          failures prior.steps =
            unchanged + countOf bucketB.resolvedFailureSignatures sig) ∧
      swapped.bucketA = comparison.bucketA.map BucketAEntry.swapped ∧
      swapped.bucketB =
        { introducedFailureSignatures := comparison.bucketB.resolvedFailureSignatures
          resolvedFailureSignatures := comparison.bucketB.introducedFailureSignatures
          unchangedFailureInstanceCounts :=
            comparison.bucketB.unchangedFailureInstanceCounts } ∧
      swapped.introducedRunLevelCodes = comparison.resolvedRunLevelCodes ∧
      swapped.resolvedRunLevelCodes = comparison.introducedRunLevelCodes := by
  refine ⟨?_, ?_, bucketAOf_swapped _ _, ?_, rfl, rfl⟩
  · intro step hstep hfailing key hkey
    exact failureReported hstep hfailing hkey
  · intro sig
    obtain ⟨hintroduced, hresolved, hunchanged⟩ :=
      pairwiseBucketB_counts prior.steps current.steps sig
    dsimp only [comparePairwise]
    rw [hintroduced, hresolved, hunchanged, count_failingSignatures,
      count_failingSignatures]
    omega
  · have hcounts := unchangedCounts_comm prior.steps current.steps
    dsimp only [comparePairwise]
    rw [← hcounts]
    rfl

end AgentSkeptic.Engine

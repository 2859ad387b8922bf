import AgentSkeptic.Engine.RunComparison
import AgentSkeptic.Engine.MultiEffectPaths
import AgentSkeptic.Support.BoundStatements
import AgentSkeptic.Support.Separated
import AgentSkeptic.Support.Utf16Sort
import Mathlib.Data.Finset.Card

/-!
# Recurring failures

`recurrenceSignature` and `buildRecurrence` of `runComparison.ts`: the signatures of the
failing steps, and for each signature the runs in which it occurs.
-/

namespace AgentSkeptic.Engine

open AgentSkeptic.Support

/-! ## The patterns -/

structure RecurrenceExemplar where
  runIndex : ℕ
  seq : ℕ
  toolId : String

structure RecurrencePattern where
  signature : String
  runIndices : List ℕ
  runsHitCount : ℕ
  exemplars : List RecurrenceExemplar

/-- The two maps of the loop, and the signatures that the run has had. -/
structure RecurrenceState where
  signatureToRuns : InsertionMap String (InsertionMap ℕ Unit)
  signatureToExemplars : InsertionMap String (List RecurrenceExemplar)
  seen : InsertionMap String Unit

namespace RecurrenceState

def empty : RecurrenceState := ⟨.empty, .empty, .empty⟩

/-- The runs of a signature, a set. -/
def runsOf (st : RecurrenceState) (sig : String) : InsertionMap ℕ Unit :=
  (st.signatureToRuns.get? sig).getD .empty

def exemplarsOf (st : RecurrenceState) (sig : String) : List RecurrenceExemplar :=
  (st.signatureToExemplars.get? sig).getD []

/-- What a new signature of the run adds. -/
def addSignature (st : RecurrenceState) (ri : ℕ) (step : StepOutcome) (sig : String) :
    RecurrenceState where
  signatureToRuns := st.signatureToRuns.set sig ((st.runsOf sig).set ri ())
  signatureToExemplars := st.signatureToExemplars.set sig
    (if (st.exemplarsOf sig).length < 3 then
      st.exemplarsOf sig ++ [⟨ri, step.seq, step.toolId⟩]
    else st.exemplarsOf sig)
  seen := st.seen.set sig ()

/-- The body of the inner loop. -/
def addStep (ri : ℕ) (st : RecurrenceState) (step : StepOutcome) : RecurrenceState :=
  if isFailing step.status then
    let sig := recurrenceSignature step
    if (st.seen.get? sig).isSome then st else st.addSignature ri step sig
  else st

/-- The body of the outer loop. -/
def addRun (st : RecurrenceState) (indexed : WorkflowEngineResult × ℕ) : RecurrenceState :=
  indexed.1.steps.foldl (addStep indexed.2) { st with seen := .empty }

def ofRuns (results : List WorkflowEngineResult) : RecurrenceState :=
  results.zipIdx.foldl addRun empty

end RecurrenceState

def recurrencePattern (st : RecurrenceState) (sig : String) : Option RecurrencePattern :=
  let runs := (st.runsOf sig).keys
  if runs.length < 2 then none
  else
    some
      { signature := sig
        runIndices := runs.insertionSort (· ≤ ·)
        runsHitCount := runs.length
        exemplars := st.exemplarsOf sig }

def buildRecurrence (results : List WorkflowEngineResult) : List RecurrencePattern :=
  let st := RecurrenceState.ofRuns results
  (sortById id st.signatureToRuns.keys).filterMap (recurrencePattern st)

/-! ## The runs of a signature -/

/-- A failing step of the list has the signature. -/
def FailsAmong (steps : List StepOutcome) (sig : String) : Prop :=
  ∃ step ∈ steps, isFailing step.status = true ∧ recurrenceSignature step = sig

theorem failsAmong_snoc (steps : List StepOutcome) (step : StepOutcome) (sig : String) :
    FailsAmong (steps ++ [step]) sig ↔ FailsAmong steps sig ∨
      isFailing step.status = true ∧ recurrenceSignature step = sig := by
  simp [FailsAmong, or_and_right, exists_or]

/-- The runs in which a failing step has the signature. -/
def runsFailing (results : List WorkflowEngineResult) (sig : String) : Set ℕ :=
  { i | ∃ run, results[i]? = some run ∧ FailsAmong run.steps sig }

theorem mem_runsFailing_snoc {results : List WorkflowEngineResult}
    {run : WorkflowEngineResult} {sig : String} {i : ℕ} :
    i ∈ runsFailing (results ++ [run]) sig ↔
      i ∈ runsFailing results sig ∨ i = results.length ∧ FailsAmong run.steps sig :=
  exists_getElem?_snoc

namespace RecurrenceState

theorem runsOf_addSignature (st : RecurrenceState) (ri : ℕ) (step : StepOutcome)
    (sig sig' : String) :
    (st.addSignature ri step sig).runsOf sig' =
      if sig = sig' then (st.runsOf sig').set ri () else st.runsOf sig' := by
  rw [runsOf, addSignature, InsertionMap.get?_set]
  split_ifs with hsame
  · rw [hsame, Option.getD_some]
  · rfl

/-- The signatures that a run has had are those of its steps so far. -/
structure Tracks (start : RecurrenceState) (ri : ℕ) (steps : List StepOutcome)
    (st : RecurrenceState) : Prop where
  seen : ∀ sig, (st.seen.get? sig).isSome = true ↔ FailsAmong steps sig
  runs : ∀ sig i, i ∈ (st.runsOf sig).keys ↔ i ∈ (start.runsOf sig).keys ∨
    i = ri ∧ FailsAmong steps sig

/-- A step without a new signature changes nothing. -/
theorem Tracks.unchanged {start st : RecurrenceState} {ri : ℕ} {steps steps' : List StepOutcome}
    (h : Tracks start ri steps st) (hsame : ∀ sig, FailsAmong steps' sig ↔ FailsAmong steps sig) :
    Tracks start ri steps' st :=
  ⟨fun sig => (h.seen sig).trans (hsame sig).symm, fun sig i => by rw [h.runs, hsame]⟩

theorem Tracks.addSignature {start st : RecurrenceState} {ri : ℕ} {steps : List StepOutcome}
    (h : Tracks start ri steps st) {step : StepOutcome} (hfails : isFailing step.status = true) :
    Tracks start ri (steps ++ [step])
      (st.addSignature ri step (recurrenceSignature step)) := by
  constructor
  · intro sig
    have hset : ((st.addSignature ri step (recurrenceSignature step)).seen.get? sig).isSome =
        true ↔ recurrenceSignature step = sig ∨ (st.seen.get? sig).isSome = true := by
      rw [RecurrenceState.addSignature, InsertionMap.get?_set]
      split_ifs with hsame
      · simp [hsame]
      · simp [hsame]
    rw [hset, h.seen, failsAmong_snoc]
    tauto
  · intro sig i
    rw [runsOf_addSignature, failsAmong_snoc]
    split_ifs with hsame
    · rw [InsertionMap.mem_keys_set, h.runs]
      tauto
    · rw [h.runs]
      tauto

theorem Tracks.addStep {start st : RecurrenceState} {ri : ℕ} {steps : List StepOutcome}
    (h : Tracks start ri steps st) (step : StepOutcome) :
    Tracks start ri (steps ++ [step]) (addStep ri st step) := by
  rw [RecurrenceState.addStep]
  by_cases hfails : isFailing step.status = true
  · rw [if_pos hfails]
    dsimp only
    by_cases hseen : (st.seen.get? (recurrenceSignature step)).isSome = true
    · rw [if_pos hseen]
      apply h.unchanged
      intro sig
      rw [failsAmong_snoc]
      refine or_iff_left_of_imp ?_
      rintro ⟨-, rfl⟩
      exact (h.seen _).mp hseen
    · rw [if_neg hseen]
      exact h.addSignature hfails
  · rw [if_neg hfails]
    apply h.unchanged
    intro sig
    rw [failsAmong_snoc]
    exact or_iff_left fun hboth => hfails hboth.1

theorem addRun_tracks (st : RecurrenceState) (run : WorkflowEngineResult) (ri : ℕ) :
    Tracks st ri run.steps (st.addRun (run, ri)) := by
  rw [addRun]
  induction run.steps using List.reverseRecOn with
  | nil => exact ⟨fun sig => by simp [FailsAmong], fun sig i => by simp [FailsAmong, runsOf]⟩
  | append_singleton steps step ih =>
      rw [List.foldl_append]
      exact ih.addStep step

theorem mem_runsOf_ofRuns (results : List WorkflowEngineResult) (sig : String) (i : ℕ) :
    i ∈ ((ofRuns results).runsOf sig).keys ↔ i ∈ runsFailing results sig := by
  induction results using List.reverseRecOn with
  | nil =>
      have hnone : (ofRuns []).runsOf sig = .empty := rfl
      simp [hnone, runsFailing, InsertionMap.keys, InsertionMap.empty]
  | append_singleton results run ih =>
      have hsnoc : ofRuns (results ++ [run]) = (ofRuns results).addRun (run, results.length) := by
        rw [ofRuns, List.zipIdx_append, List.foldl_append, Nat.zero_add]
        rfl
      rw [hsnoc, (addRun_tracks _ run _).runs, ih, mem_runsFailing_snoc]

end RecurrenceState

/-! ## The report -/

/-- The signatures that recur, each with the runs in which it occurs. -/
structure RecurrenceExact (results : List WorkflowEngineResult)
    (patterns : List RecurrencePattern) : Prop where
  listed : ∀ sig, (∃ p ∈ patterns, p.signature = sig) ↔
    ∃ i ∈ runsFailing results sig, ∃ j ∈ runsFailing results sig, i ≠ j
  once : (patterns.map RecurrencePattern.signature).Nodup
  increasing : ∀ p ∈ patterns, p.runIndices.Pairwise (· < ·)
  runs : ∀ p ∈ patterns, ∀ i, i ∈ p.runIndices ↔ i ∈ runsFailing results p.signature

theorem recurrencePattern_eq_some {st : RecurrenceState} {sig : String}
    {p : RecurrencePattern} (h : recurrencePattern st sig = some p) :
    p.signature = sig ∧ 2 ≤ (st.runsOf sig).keys.length ∧
      p.runIndices = (st.runsOf sig).keys.insertionSort (· ≤ ·) := by
  rw [recurrencePattern] at h
  split_ifs at h with hlt
  obtain rfl := Option.some.inj h
  exact ⟨rfl, by omega, rfl⟩

theorem buildRecurrence_exact (results : List WorkflowEngineResult) :
    RecurrenceExact results (buildRecurrence results) := by
  have hpattern : ∀ p ∈ buildRecurrence results,
      2 ≤ ((RecurrenceState.ofRuns results).runsOf p.signature).keys.length ∧
        p.runIndices = ((RecurrenceState.ofRuns results).runsOf p.signature).keys.insertionSort
          (· ≤ ·) := by
    intro p hp
    obtain ⟨sig, -, hsome⟩ := List.mem_filterMap.mp hp
    obtain ⟨rfl, hspec⟩ := recurrencePattern_eq_some hsome
    exact hspec
  have hnodup : ∀ sig, ((RecurrenceState.ofRuns results).runsOf sig).keys.Nodup :=
    fun sig => ((RecurrenceState.ofRuns results).runsOf sig).nodup
  have htwo : ∀ sig, 2 ≤ ((RecurrenceState.ofRuns results).runsOf sig).keys.length ↔
      ∃ i ∈ runsFailing results sig, ∃ j ∈ runsFailing results sig, i ≠ j := by
    intro sig
    rw [← List.toFinset_card_of_nodup (hnodup sig), Nat.succ_le_iff, Finset.one_lt_card]
    simp only [List.mem_toFinset, RecurrenceState.mem_runsOf_ofRuns]
  refine ⟨fun sig => ⟨?_, ?_⟩, ?_, ?_, ?_⟩
  · rintro ⟨p, hp, rfl⟩
    exact (htwo _).mp (hpattern p hp).1
  · intro hruns
    have hlength := (htwo sig).mpr hruns
    have hkey : sig ∈ (RecurrenceState.ofRuns results).signatureToRuns.keys := by
      by_contra hnot
      have hnone := InsertionMap.not_mem_keys_iff.mp hnot
      rw [RecurrenceState.runsOf, hnone] at hlength
      exact absurd hlength (by decide)
    have hsome : ∃ p, recurrencePattern (RecurrenceState.ofRuns results) sig = some p := by
      rw [recurrencePattern]
      exact ⟨_, if_neg (by omega)⟩
    obtain ⟨p, hp⟩ := hsome
    refine ⟨p, List.mem_filterMap.mpr ⟨sig, ?_, hp⟩, (recurrencePattern_eq_some hp).1⟩
    exact (List.mem_insertionSort _).mpr hkey
  · have hsorted : (sortById id (RecurrenceState.ofRuns results).signatureToRuns.keys).Nodup :=
      (List.perm_insertionSort _ _).nodup_iff.mpr
        (RecurrenceState.ofRuns results).signatureToRuns.nodup
    have hsub : ((buildRecurrence results).map RecurrencePattern.signature).Sublist
        (sortById id (RecurrenceState.ofRuns results).signatureToRuns.keys) := by
      rw [buildRecurrence]
      induction sortById id (RecurrenceState.ofRuns results).signatureToRuns.keys with
      | nil => exact List.nil_sublist _
      | cons sig sigs ih =>
          rw [List.filterMap_cons]
          cases hp : recurrencePattern (RecurrenceState.ofRuns results) sig with
          | none => exact ih.cons _
          | some p =>
              rw [List.map_cons, (recurrencePattern_eq_some hp).1]
              exact ih.cons_cons _
    exact hsub.nodup hsorted
  · intro p hp
    rw [(hpattern p hp).2]
    have hsorted := List.pairwise_insertionSort (· ≤ ·)
      ((RecurrenceState.ofRuns results).runsOf p.signature).keys
    have hdistinct : (((RecurrenceState.ofRuns results).runsOf p.signature).keys.insertionSort
        (· ≤ ·)).Nodup :=
      (List.perm_insertionSort _ _).nodup_iff.mpr (hnodup p.signature)
    exact (hsorted.and hdistinct).imp fun h => lt_of_le_of_ne h.1 h.2
  · intro p hp i
    rw [(hpattern p hp).2, List.mem_insertionSort, RecurrenceState.mem_runsOf_ofRuns]

/-! ## Signatures -/

def failingEffects (step : StepOutcome) : List EvidenceEffect :=
  ((getEffectRows step).getD []).filter EvidenceEffect.failing

/-- One effect with one contribution to a signature. -/
def SameEffect (e f : EvidenceEffect) : Prop :=
  e.id = f.id ∧ e.status = f.status ∧ e.codes.Perm f.codes

/-- The same status, multiset of codes and failing effects; effects of one id stand in one
order. -/
structure SameFailure (a b : StepOutcome) : Prop where
  status : a.status = b.status
  codes : (codesFromReasons a.reasons).Perm (codesFromReasons b.reasons)
  effects : ∀ id, List.Forall₂ SameEffect ((failingEffects a).filter (·.id = id))
    ((failingEffects b).filter (·.id = id))

/-- A code that is neither empty nor has a comma or a bar. -/
def PlainCode (code : String) : Prop :=
  code ≠ "" ∧ ',' ∉ code.toList ∧ '|' ∉ code.toList

/-- No text of a failing step has a delimiter of the signature that could stand for one. -/
structure PlainFailure (step : StepOutcome) : Prop where
  codes : ∀ code ∈ codesFromReasons step.reasons, PlainCode code
  ids : ∀ e ∈ failingEffects step, '|' ∉ e.id.toList
  statuses : ∀ e ∈ failingEffects step, '|' ∉ e.status.toList ∧ ':' ∉ e.status.toList
  effectCodes : ∀ e ∈ failingEffects step, ∀ code ∈ e.codes,
    PlainCode code ∧ ':' ∉ code.toList

def codesText (codes : List String) : List Char :=
  [','].intercalate ((sortMultisetCodes codes).map String.toList)

/-- What an effect adds, without the bar before it. -/
def effectPart (e : EvidenceEffect) : List Char :=
  'e' :: ':' :: (e.id.toList ++ ':' :: (e.status.toList ++ ':' :: 'r' :: ':' :: codesText e.codes))

/-- A signature is its parts with bars between them. -/
theorem toList_recurrenceSignature (step : StepOutcome) :
    (recurrenceSignature step).toList =
      ['|'].intercalate (step.status.text.toList ::
        codesText (codesFromReasons step.reasons) ::
          (sortById EvidenceEffect.id (failingEffects step)).map effectPart) := by
  have hcodes : ∀ codes : List String,
      (",".intercalate (sortMultisetCodes codes)).toList = codesText codes := by
    intro codes
    rw [String.toList_intercalate]
    rfl
  have hpart : ∀ e : EvidenceEffect,
      ("|e:" ++ e.id ++ ":" ++ e.status ++ ":r:" ++
        ",".intercalate (sortMultisetCodes e.codes)).toList = ['|'] ++ effectPart e := by
    intro e
    simp only [String.toList_append, hcodes, effectPart, List.append_assoc]
    rfl
  rw [intercalate_cons_eq_flatMap, List.flatMap_cons, List.flatMap_map, recurrenceSignature]
  simp only [String.toList_append, hcodes, String.toList_join, List.flatMap_map, hpart,
    List.append_assoc]
  rfl

theorem codesText_eq {codes codes' : List String} (h : codes.Perm codes') :
    codesText codes = codesText codes' := by
  have hsorted : sortMultisetCodes codes = sortMultisetCodes codes' := sortBy_id_eq_iff.mpr h
  rw [codesText, codesText, hsorted]

theorem SameEffect.effectPart_eq {e f : EvidenceEffect} (h : SameEffect e f) :
    effectPart e = effectPart f := by
  rw [effectPart, effectPart, h.1, h.2.1, codesText_eq h.2.2]

theorem SameFailure.signature_eq {a b : StepOutcome} (h : SameFailure a b) :
    recurrenceSignature a = recurrenceSignature b := by
  have hparts : (sortById EvidenceEffect.id (failingEffects a)).map effectPart =
      (sortById EvidenceEffect.id (failingEffects b)).map effectPart :=
    map_sortBy_eq_of_forall₂ EvidenceEffect.id (fun _ _ hsame => ⟨hsame.1, hsame.effectPart_eq⟩)
      h.effects
  apply String.toList_injective
  rw [toList_recurrenceSignature, toList_recurrenceSignature, h.status, codesText_eq h.codes,
    hparts]

/-! ## Signatures of plain failures -/

theorem mem_codesText {codes : List String} {c : Char} (h : c ∈ codesText codes) :
    c = ',' ∨ ∃ code ∈ codes, c ∈ code.toList := by
  rcases mem_of_mem_intercalate h with hcomma | ⟨x, hx, hc⟩
  · exact .inl hcomma
  · obtain ⟨code, hcode, rfl⟩ := List.mem_map.mp hx
    exact .inr ⟨code, (List.mem_insertionSort _).mp hcode, hc⟩

theorem codesText_injective {codes codes' : List String} (h : ∀ code ∈ codes, PlainCode code)
    (h' : ∀ code ∈ codes', PlainCode code) (heq : codesText codes = codesText codes') :
    codes.Perm codes' := by
  have hplain : ∀ {cs : List String}, (∀ code ∈ cs, PlainCode code) →
      ∀ x ∈ (sortMultisetCodes cs).map String.toList, x ≠ [] ∧ ',' ∉ x := by
    intro cs hcs x hx
    obtain ⟨code, hcode, rfl⟩ := List.mem_map.mp hx
    obtain ⟨hne, hcomma, -⟩ := hcs code ((List.mem_insertionSort _).mp hcode)
    exact ⟨by simpa using hne, hcomma⟩
  have hlists := intercalate_unique_of_ne_nil (hplain h) (hplain h') heq
  have hinjective : Function.Injective String.toList :=
    fun _ _ hsame => String.toList_injective hsame
  exact sortBy_id_eq_iff.mp (List.map_injective_iff.mpr hinjective hlists)

/-- What the part of an effect determines. -/
theorem effectPart_injective {e f : EvidenceEffect}
    (he : ':' ∉ e.status.toList ∧ ∀ code ∈ e.codes, PlainCode code ∧ ':' ∉ code.toList)
    (hf : ':' ∉ f.status.toList ∧ ∀ code ∈ f.codes, PlainCode code ∧ ':' ∉ code.toList)
    (h : effectPart e = effectPart f) : SameEffect e f := by
  have hcolon : ∀ g : EvidenceEffect, (∀ code ∈ g.codes, PlainCode code ∧ ':' ∉ code.toList) →
      ':' ∉ codesText g.codes := by
    intro g hg hmem
    rcases mem_codesText hmem with hcomma | ⟨code, hcode, hin⟩
    · exact absurd hcomma (by decide)
    · exact (hg code hcode).2 hin
  have hshape : ∀ g : EvidenceEffect, effectPart g =
      (['e', ':'] ++ g.id.toList ++ ':' :: (g.status.toList ++ [':', 'r'])) ++
        ':' :: codesText g.codes := by
    intro g
    rw [effectPart]
    simp
  rw [hshape, hshape] at h
  obtain ⟨hfront, hcodes⟩ := cut_last_unique (hcolon e he.2) (hcolon f hf.2) h
  have hsplit : ∀ g : EvidenceEffect,
      ['e', ':'] ++ g.id.toList ++ ':' :: (g.status.toList ++ [':', 'r']) =
        (['e', ':'] ++ g.id.toList ++ ':' :: g.status.toList) ++ [':', 'r'] := by
    intro g
    simp
  rw [hsplit, hsplit] at hfront
  obtain ⟨hids, -⟩ := List.append_inj' hfront rfl
  obtain ⟨hid, hstatus⟩ := cut_last_unique he.1 hf.1 hids
  have hid' := List.append_cancel_left hid
  exact ⟨String.toList_injective hid', String.toList_injective hstatus,
    codesText_injective (fun c hc => (he.2 c hc).1) (fun c hc => (hf.2 c hc).1) hcodes⟩

theorem StepStatus.text_injective : Function.Injective StepStatus.text := by
  intro a b h
  cases a <;> cases b <;> first | rfl | exact absurd h (by decide)

theorem bar_notMem_status (status : StepStatus) : '|' ∉ status.text.toList := by
  cases status <;> decide

theorem signature_injective {a b : StepOutcome} (ha : PlainFailure a) (hb : PlainFailure b)
    (h : recurrenceSignature a = recurrenceSignature b) : SameFailure a b := by
  have hbars : ∀ step : StepOutcome, PlainFailure step →
      ∀ part ∈ step.status.text.toList :: codesText (codesFromReasons step.reasons) ::
        (sortById EvidenceEffect.id (failingEffects step)).map effectPart, '|' ∉ part := by
    intro step hstep
    have hcodes : ∀ codes : List String, (∀ code ∈ codes, PlainCode code) →
        '|' ∉ codesText codes := by
      intro codes hplain hmem
      rcases mem_codesText hmem with hcomma | ⟨code, hcode, hin⟩
      · exact absurd hcomma (by decide)
      · exact (hplain code hcode).2.2 hin
    rw [List.forall_mem_cons, List.forall_mem_cons]
    refine ⟨bar_notMem_status _, hcodes _ hstep.codes, ?_⟩
    intro part hpart
    obtain ⟨e, he, rfl⟩ := List.mem_map.mp hpart
    have hfailing := (List.mem_insertionSort _).mp he
    have hid := hstep.ids e hfailing
    have hstatus := (hstep.statuses e hfailing).1
    have heffect := hcodes e.codes fun c hc => (hstep.effectCodes e hfailing c hc).1
    simp [effectPart, hid, hstatus, heffect]
  have hlist := congrArg String.toList h
  rw [toList_recurrenceSignature, toList_recurrenceSignature] at hlist
  have hparts := intercalate_unique (hbars a ha) (hbars b hb) (List.cons_ne_nil _ _)
    (List.cons_ne_nil _ _) hlist
  obtain ⟨hstatus, hrest⟩ := List.cons.inj hparts
  obtain ⟨hcodes, heffects⟩ := List.cons.inj hrest
  refine ⟨?_, codesText_injective ha.codes hb.codes hcodes, ?_⟩
  · exact StepStatus.text_injective (String.toList_injective hstatus)
  · refine forall₂_filter_of_map_sortBy EvidenceEffect.id ?_ heffects
    intro e he f hf hpart
    have hsame := effectPart_injective ⟨(ha.statuses e he).2, ha.effectCodes e he⟩
      ⟨(hb.statuses f hf).2, hb.effectCodes f hf⟩ hpart
    exact ⟨hsame.1, hsame⟩

/-- A signature is listed with the runs in which it occurs, if these are two or more; failing
steps that are the same have one signature, and only these where no text has a delimiter. -/
theorem recurrence_exact :
    (∀ results : List WorkflowEngineResult,
      RecurrenceExact results (buildRecurrence results)) ∧
    (∀ a b : StepOutcome, SameFailure a b →
      recurrenceSignature a = recurrenceSignature b) ∧
    ∀ a b : StepOutcome, PlainFailure a → PlainFailure b →
      recurrenceSignature a = recurrenceSignature b → SameFailure a b :=
  ⟨buildRecurrence_exact, fun _ _ h => h.signature_eq, fun _ _ ha hb => signature_injective ha hb⟩

/-! ## Steps that are not told apart, and steps that are -/

def failedStep (codes : List String) (effects : List Json) : StepOutcome :=
  { contactStep 0 .missing (codes.map fun code => { code := code, message := "" }) with
    evidenceSummary := [("effects", .arr effects)] }

def failedEffect (id code : String) : Json :=
  .obj [("id", .str id), ("status", .str "missing"),
    ("reasons", .arr [.obj [("code", .str code)]])]

/-- Two absent rows, in two runs. -/
theorem recurrence_absent :
    (RecurrenceExact [contactRun .incomplete [contactAbsent], contactRun .incomplete []]
      (buildRecurrence [contactRun .incomplete [contactAbsent], contactRun .incomplete []])) ∧
    recurrenceSignature contactAbsent = recurrenceSignature contactAbsent ∧
    SameFailure contactAbsent contactAbsent := by
  have hnone : failingEffects contactAbsent = [] := rfl
  have hplain : PlainFailure contactAbsent := by
    refine ⟨?_, ?_, ?_, ?_⟩
    · intro code hcode
      obtain rfl : code = "ROW_ABSENT" := List.mem_singleton.mp hcode
      exact ⟨by decide, by decide, by decide⟩
    all_goals
      rw [hnone]
      exact nofun
  have hsame := recurrence_exact.2.2 contactAbsent contactAbsent hplain hplain rfl
  exact ⟨recurrence_exact.1 _, recurrence_exact.2.1 _ _ hsame, hsame⟩

/-- A comma in a code, and two effects of one id in another order. -/
theorem recurrence_delimiters :
    (recurrenceSignature (failedStep ["A,B"] []) = recurrenceSignature (failedStep ["A", "B"] []) ∧
      ¬ SameFailure (failedStep ["A,B"] []) (failedStep ["A", "B"] [])) ∧
    (failingEffects (failedStep [] [failedEffect "e" "A", failedEffect "e" "B"])).Perm
        (failingEffects (failedStep [] [failedEffect "e" "B", failedEffect "e" "A"])) ∧
      recurrenceSignature (failedStep [] [failedEffect "e" "A", failedEffect "e" "B"]) ≠
        recurrenceSignature (failedStep [] [failedEffect "e" "B", failedEffect "e" "A"]) := by
  refine ⟨⟨by decide +kernel, fun h => ?_⟩, ?_, by decide +kernel⟩
  · have hlength := h.codes.length_eq
    exact absurd hlength (by decide)
  · have heffects : ∀ first second : String,
        failingEffects (failedStep [] [failedEffect "e" first, failedEffect "e" second]) =
          [⟨"e", "missing", [first]⟩, ⟨"e", "missing", [second]⟩] := fun _ _ => rfl
    rw [heffects, heffects]
    exact List.Perm.swap _ _ _

end AgentSkeptic.Engine

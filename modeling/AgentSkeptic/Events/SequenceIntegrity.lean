import AgentSkeptic.Events.RunEvents
import Mathlib.Data.List.Chain
import Mathlib.Data.List.Infix

/-!
# What the integrity of a run reports

The two loops of `analyzeEventSequenceIntegrity`, as statements about all pairs of
events.  The running maximum finds every pair that was captured against its `seq`; the
loop over adjacent pairs finds a decrease of the timestamps exactly when no event
without a readable timestamp stands in between.
-/

namespace AgentSkeptic.Events

open AgentSkeptic.Support AgentSkeptic.Engine

/-! ## The running maximum -/

/-- Some event has a smaller `seq` than one captured before it. -/
def CapturedAgainstSeq (captureOrder : List RunEvent) : Prop :=
  ∃ a b, [a, b].Sublist captureOrder ∧ b.seq < a.seq

theorem capturedAgainstSeq_iff {captureOrder : List RunEvent} :
    CapturedAgainstSeq captureOrder ↔
      ¬ captureOrder.Pairwise fun a b => a.seq ≤ b.seq := by
  rw [List.pairwise_iff_forall_sublist]
  constructor
  · rintro ⟨a, b, hsub, hlt⟩ hall
    have hle := hall hsub
    omega
  · intro hnot
    by_contra hnone
    apply hnot
    intro a b hsub
    by_contra hgt
    exact hnone ⟨a, b, hsub, by omega⟩

/-- What the loop has found from a maximum on: an event below it, or a pair. -/
theorem captureIrregular_some {events : List RunEvent} {maxSeqSeen : ℕ} :
    captureIrregular (some maxSeqSeen) events = false ↔
      (∀ ev ∈ events, maxSeqSeen ≤ ev.seq) ∧
        events.Pairwise fun a b => a.seq ≤ b.seq := by
  induction events generalizing maxSeqSeen with
  | nil => simp [captureIrregular]
  | cons ev events ih =>
      rw [captureIrregular, Bool.or_eq_false_iff, ih, List.pairwise_cons,
        List.forall_mem_cons]
      simp only [Option.any_some, Option.getD_some, decide_eq_false_iff_not, not_lt]
      constructor
      · rintro ⟨hle, hmax, hpairs⟩
        refine ⟨⟨hle, fun later hlater => ?_⟩, fun later hlater => ?_, hpairs⟩
        · exact (le_max_left _ _).trans (hmax later hlater)
        · exact (le_max_right _ _).trans (hmax later hlater)
      · rintro ⟨⟨hle, hmax⟩, hfirst, hpairs⟩
        exact ⟨hle, fun later hlater =>
          max_le (hmax later hlater) (hfirst later hlater), hpairs⟩

theorem captureIrregular_iff {captureOrder : List RunEvent} :
    captureIrregular none captureOrder = true ↔ CapturedAgainstSeq captureOrder := by
  rw [capturedAgainstSeq_iff, ← Bool.not_eq_false]
  apply not_congr
  cases captureOrder with
  | nil => simp [captureIrregular]
  | cons ev events =>
      have hstart : captureIrregular none (ev :: events) =
          captureIrregular (some ev.seq) events := by
        rw [captureIrregular, Option.any_none, Bool.false_or, Option.getD_none, Nat.zero_max]
      rw [hstart, captureIrregular_some, List.pairwise_cons]

/-! ## The adjacent pairs -/

section

variable (dateParse : String → Option ℤ)

/-- The timestamps of two events can be read, and decrease. -/
def Decreases (a b : RunEvent) : Prop :=
  ∃ ta ∈ timestampMs dateParse a, ∃ tb ∈ timestampMs dateParse b, tb < ta

/-- An event is followed by one with a smaller timestamp, and the timestamps of all
events between them can be read. -/
def TimestampsDecrease (sorted : List RunEvent) : Prop :=
  ∃ a between b, (a :: between ++ [b]) <:+: sorted ∧
    (∀ ev ∈ between, (timestampMs dateParse ev).isSome) ∧ Decreases dateParse a b

variable {dateParse}

theorem timestampDrop_eq_none {sorted : List RunEvent} :
    timestampDrop dateParse sorted = none ↔
      sorted.IsChain fun a b => ¬ Decreases dateParse a b := by
  induction sorted with
  | nil => simp [timestampDrop]
  | cons a rest ih =>
      cases rest with
      | nil => simp [timestampDrop]
      | cons b rest =>
          rw [List.isChain_cons_cons, ← ih, timestampDrop]
          cases hta : timestampMs dateParse a with
          | none => simp [Decreases, hta]
          | some ta =>
              cases htb : timestampMs dateParse b with
              | none => simp [Decreases, htb]
              | some tb =>
                  by_cases hlt : tb < ta
                  · simp [Decreases, hta, htb, hlt]
                  · simp [Decreases, hta, htb, hlt]

/-- Where all timestamps can be read, no decrease of a neighbour is no decrease at all. -/
theorem not_decreases_of_isChain {a b : RunEvent} {between : List RunEvent}
    (hchain : (a :: between ++ [b]).IsChain fun x y => ¬ Decreases dateParse x y)
    (hread : ∀ ev ∈ between, (timestampMs dateParse ev).isSome) :
    ¬ Decreases dateParse a b := by
  induction between generalizing a with
  | nil => exact (List.isChain_cons_cons.mp hchain).1
  | cons c between ih =>
      obtain ⟨hfirst, hrest⟩ := List.isChain_cons_cons.mp hchain
      obtain ⟨hc, hbetween⟩ := List.forall_mem_cons.mp hread
      obtain ⟨tc, htc⟩ := Option.isSome_iff_exists.mp hc
      have hlast := ih hrest hbetween
      rintro ⟨ta, hta, tb, htb, hlt⟩
      have hac : ta ≤ tc := not_lt.mp fun h => hfirst ⟨ta, hta, tc, htc, h⟩
      have hcb : tc ≤ tb := not_lt.mp fun h => hlast ⟨tc, htc, tb, htb, h⟩
      omega

theorem timestampDrop_isSome {sorted : List RunEvent} :
    (timestampDrop dateParse sorted).isSome ↔ TimestampsDecrease dateParse sorted := by
  have hnone : ¬ TimestampsDecrease dateParse sorted ↔
      timestampDrop dateParse sorted = none := by
    rw [timestampDrop_eq_none]
    constructor
    · intro hno
      rw [List.isChain_iff_forall_rel_of_append_cons_cons]
      intro a b pre post hsplit hlt
      apply hno
      refine ⟨a, [], b, ⟨pre, post, ?_⟩, nofun, hlt⟩
      rw [hsplit]
      simp
    · rintro hchain ⟨a, between, b, hinfix, hread, hlt⟩
      exact not_decreases_of_isChain ( List.IsChain.infix hchain hinfix) hread hlt
  rw [← not_iff_not, hnone, Bool.not_eq_true, Option.isSome_eq_false_iff,
    Option.isNone_iff_eq_none]

end

/-! ## The report -/

/-- A reason with this code is reported. -/
def EventSequenceIntegrity.Reports (integrity : EventSequenceIntegrity) (code : String) :
    Prop :=
  ∃ r ∈ integrity.reasons, r.code = code

theorem mem_sequenceReasons {dateParse : String → Option ℤ} {captureOrder : List RunEvent}
    {r : Reason} :
    r ∈ sequenceReasons dateParse captureOrder ↔
      captureIrregular none captureOrder = true ∧ r = captureOrderNotMonotonicInSeq ∨
        ∃ drop, timestampDrop dateParse (stableSortEventsBySeq captureOrder) = some drop ∧
          r = eventSequenceTimestampNotMonotonicReason drop.1 drop.2 := by
  rw [sequenceReasons, List.mem_append]
  apply or_congr
  · by_cases hirregular : captureIrregular none captureOrder = true
    · simp [hirregular]
    · simp [hirregular]
  · cases timestampDrop dateParse (stableSortEventsBySeq captureOrder) with
    | none => simp
    | some drop => simp

/-- Both reasons are exact, and a run without them is normal. -/
theorem eventSequenceIntegrity_exact (dateParse : String → Option ℤ)
    (captureOrder : List RunEvent) :
    ((analyzeEventSequenceIntegrity dateParse captureOrder).Reports
        "CAPTURE_ORDER_NOT_MONOTONIC_IN_SEQ" ↔ CapturedAgainstSeq captureOrder) ∧
      ((analyzeEventSequenceIntegrity dateParse captureOrder).Reports
        "TIMESTAMP_NOT_MONOTONIC_WITH_SEQ_SORT_ORDER" ↔
          TimestampsDecrease dateParse (stableSortEventsBySeq captureOrder)) ∧
      (analyzeEventSequenceIntegrity dateParse captureOrder = .normal ↔
        ¬ CapturedAgainstSeq captureOrder ∧
          ¬ TimestampsDecrease dateParse (stableSortEventsBySeq captureOrder)) := by
  rw [← captureIrregular_iff, ← timestampDrop_isSome]
  simp only [EventSequenceIntegrity.Reports, reasons_analyze, mem_sequenceReasons]
  refine ⟨⟨?_, fun h => ⟨_, .inl ⟨h, rfl⟩, rfl⟩⟩, ⟨?_, fun h => ?_⟩, ?_⟩
  · rintro ⟨r, ⟨hirregular, -⟩ | ⟨drop, -, rfl⟩, hcode⟩
    · exact hirregular
    · exact absurd hcode (by simp [eventSequenceTimestampNotMonotonicReason])
  · rintro ⟨r, ⟨-, rfl⟩ | ⟨drop, hdrop, -⟩, hcode⟩
    · exact absurd hcode (by simp [captureOrderNotMonotonicInSeq])
    · simp [hdrop]
  · obtain ⟨drop, hdrop⟩ := Option.isSome_iff_exists.mp h
    exact ⟨_, .inr ⟨drop, hdrop, rfl⟩, rfl⟩
  · have hnormal : analyzeEventSequenceIntegrity dateParse captureOrder = .normal ↔
        sequenceReasons dateParse captureOrder = [] := by
      rw [analyzeEventSequenceIntegrity]
      split
      · next hnil => simp [hnil]
      · next hne => simpa using hne
    rw [hnormal, List.eq_nil_iff_forall_not_mem]
    simp only [mem_sequenceReasons, not_or, not_and, not_exists]
    constructor
    · intro hnone
      refine ⟨fun h => (hnone _).1 h rfl, fun h => ?_⟩
      obtain ⟨drop, hdrop⟩ := Option.isSome_iff_exists.mp h
      exact (hnone _).2 drop hdrop rfl
    · rintro ⟨hregular, hnodrop⟩ r
      refine ⟨fun h => absurd h hregular, fun drop hdrop => ?_⟩
      exact absurd (by simp [hdrop]) hnodrop

/-! ## A timestamp that cannot be read hides a decrease -/

/-- A version 1 observation. -/
def timedObservation (seq : ℤ) (timestamp : Option String) : Json :=
  .obj ([("schemaVersion", .num (.int 1)), ("workflowId", .str "w"),
    ("seq", .num (.int seq)), ("type", .str "tool_observed"), ("toolId", .str "t"),
    ("params", .obj [])] ++ (timestamp.map fun t => ("timestamp", Json.str t)).toList)

def interruptedRun : List RunEvent :=
  [⟨timedObservation 0 (some "1970-01-01T00:00:00.010Z"), by decide +kernel⟩,
    ⟨timedObservation 1 none, by decide +kernel⟩,
    ⟨timedObservation 2 (some "1970-01-01T00:00:00.005Z"), by decide +kernel⟩]

/-- `Date.parse` on the two timestamps. -/
def sampleDateParse (s : String) : Option ℤ :=
  if s = "1970-01-01T00:00:00.010Z" then some 10
  else if s = "1970-01-01T00:00:00.005Z" then some 5
  else none

/-- The third event is older than the first, and the run is normal. -/
theorem interruptedRun_normal :
    (∀ ev ∈ interruptedRun, ev.isToolObserved = true) ∧
      (∃ a b, [a, b].Sublist (stableSortEventsBySeq interruptedRun) ∧
        Decreases sampleDateParse a b) ∧
      analyzeEventSequenceIntegrity sampleDateParse interruptedRun = .normal := by
  have hsorted : stableSortEventsBySeq interruptedRun = interruptedRun := by
    apply stableSort_of_pairwise
    have hseqs : (interruptedRun.map RunEvent.seq).Pairwise (· ≤ ·) := by decide +kernel
    simpa [List.pairwise_map] using hseqs
  refine ⟨by decide +kernel, ?_, ?_⟩
  · rw [hsorted]
    refine ⟨interruptedRun.get ⟨0, by decide⟩, interruptedRun.get ⟨2, by decide⟩, ?_, ?_⟩
    · exact .cons_cons _ (.cons _ (.refl _))
    · exact ⟨10, by decide +kernel, 5, by decide +kernel, by decide⟩
  · rw [analyzeEventSequenceIntegrity, sequenceReasons, hsorted]
    have hregular : captureIrregular none interruptedRun = false := by decide +kernel
    have hnodrop : timestampDrop sampleDateParse interruptedRun = none := by
      decide +kernel
    rw [hregular, hnodrop]
    rfl

end AgentSkeptic.Events

import AgentSkeptic.Events.CanonicalEventEmitter

/-!
# Emitted runs

What holds after any sequence of calls and resumptions (`Emitted`), whichever writes
fail, and what the loader reads back from the file they leave.
-/

namespace AgentSkeptic.Events

open AgentSkeptic.Support AgentSkeptic.Engine

/-- The observations of a run, in its order. -/
def observations (events : List Json) : List Json := events.filter isToolObserved

theorem observations_snoc (events : List Json) (event : Json) :
    observations (events ++ [event]) =
      if isToolObserved event then observations events ++ [event]
      else observations events := by
  rw [observations, List.filter_append]
  split_ifs with hobserved
  · simp [observations, hobserved]
  · simp [observations, hobserved]

theorem runIds_snoc (events : List Json) (event : Json) :
    runIds (events ++ [event]) =
      if hasRunEventId event then runIds events ++ [runEventIdOf event]
      else runIds events := by
  rw [runIds_append]
  split_ifs with hid
  · simp [runIds, hid]
  · simp [runIds, hid]

/-- A run stays one when an event whose parent it has is added. -/
theorem ParentsEarlier.snoc {events : List Json} {event : Json}
    (h : ParentsEarlier events) (hparent : ∀ p, parentOf event = some p → p ∈ runIds events) :
    ParentsEarlier (events ++ [event]) := by
  intro pre ev post heq p hp
  rcases List.eq_nil_or_concat post with rfl | ⟨post', last, rfl⟩
  · obtain ⟨rfl, hlast⟩ := List.append_inj' heq rfl
    obtain rfl := List.singleton_injective hlast
    exact hparent p hp
  · have hsplit : events ++ [event] = (pre ++ ev :: post') ++ [last] := by
      rw [heq, List.append_assoc]
      simp
    obtain ⟨rfl, -⟩ := List.append_inj' hsplit rfl
    exact h pre ev post' rfl p hp

section

variable {em : CanonicalEventEmitter} {σ : Type} {sink : EventSink σ}

/-- What holds after steps of which `k` ask for an observation. -/
structure Emitted (em : CanonicalEventEmitter) (k : ℕ) (st : EmitterState σ) : Prop where
  events : ∀ event ∈ st.written, Emittable em event
  suspended : st.suspended ⊆ st.written
  seq_le : st.seq ≤ 2 ^ 53
  seq_le_count : st.seq ≤ k
  seqs_le : ∀ event ∈ observations st.written, seqOf event ≤ st.seq
  seqs_lt : k ≤ 2 ^ 53 → ∀ event ∈ observations st.written, seqOf event < st.seq
  ordered : (observations st.written).Pairwise fun a b => seqOf a ≤ seqOf b
  strict : k ≤ 2 ^ 53 + 1 →
    (observations st.written).Pairwise fun a b => seqOf a < seqOf b
  ids : ∀ i ∈ runIds st.written, ∃ n < st.drawn, i = em.randomUUID n
  nodup : (runIds st.written).Nodup
  parent : ∀ p, st.parentRunEventId = some p → p ∈ runIds st.written
  parents : ParentsEarlier st.written

theorem Emitted.start (em : CanonicalEventEmitter) (init : σ) :
    Emitted em 0 (EmitterState.start init) where
  events := nofun
  suspended := List.nil_subset _
  seq_le := Nat.zero_le _
  seq_le_count := Nat.zero_le _
  seqs_le := nofun
  seqs_lt _ := nofun
  ordered := .nil
  strict _ := .nil
  ids := nofun
  nodup := .nil
  parent := nofun
  parents := by
    intro pre ev post heq
    simp [EmitterState.start] at heq

theorem Emitted.mono {k k' : ℕ} {st : EmitterState σ} (h : Emitted em k st)
    (hk : k ≤ k') : Emitted em k' st :=
  { h with
    seq_le_count := h.seq_le_count.trans hk
    seqs_lt := fun hk' => h.seqs_lt (hk.trans hk')
    strict := fun hk' => h.strict (hk.trans hk') }

/-- The counters after an event was built. -/
def EmitterState.counted (st : EmitterState σ) (built : Built) : EmitterState σ :=
  { st with seq := built.seq, drawn := built.drawn }

/-- The state after the event was written. -/
def EmitterState.wrote (st : EmitterState σ) (sink : EventSink σ) (built : Built) :
    EmitterState σ :=
  { st.counted built with
    sink := sink.write st.sink built.event
    suspended := st.suspended ++ [built.event]
    written := st.written ++ [built.event] }

section Built

variable {k : ℕ} {st : EmitterState σ} {observes : Bool} {built : Built}

theorem BuiltSpec.le_seq (h : BuiltSpec em st observes built) (hseq : st.seq ≤ 2 ^ 53) :
    st.seq ≤ built.seq ∧ built.seq ≤ 2 ^ 53 ∧
      built.seq ≤ st.seq + (if observes then 1 else 0) := by
  cases observes with
  | false =>
      rw [h.other rfl]
      exact ⟨le_rfl, hseq, Nat.le_add_right _ _⟩
  | true =>
      rw [(h.observed rfl).2, nextSeq, if_pos rfl]
      omega

theorem BuiltSpec.le_drawn (h : BuiltSpec em st observes built) :
    st.drawn ≤ built.drawn := by
  cases hid : hasRunEventId built.event with
  | false => exact (h.withoutId hid).ge
  | true =>
      rw [(h.withId hid).2]
      exact Nat.le_succ _

/-- A call whose write fails leaves a gap in the numbers. -/
theorem Emitted.counted (h : Emitted em k st) (hbuilt : BuiltSpec em st observes built) :
    Emitted em (k + if observes then 1 else 0) (st.counted built) := by
  obtain ⟨hle, hlimit, hcount⟩ := hbuilt.le_seq h.seq_le
  exact
    { events := h.events
      suspended := h.suspended
      seq_le := hlimit
      seq_le_count := hcount.trans (Nat.add_le_add_right h.seq_le_count _)
      seqs_le := fun event hevent => (h.seqs_le event hevent).trans hle
      seqs_lt := fun hk event hevent =>
        (h.seqs_lt ((Nat.le_add_right _ _).trans hk) event hevent).trans_le hle
      ordered := h.ordered
      strict := fun hk => h.strict ((Nat.le_add_right _ _).trans hk)
      ids := fun i hi => by
        obtain ⟨n, hn, hin⟩ := h.ids i hi
        exact ⟨n, hn.trans_le hbuilt.le_drawn, hin⟩
      nodup := h.nodup
      parent := h.parent
      parents := h.parents }

/-- The new event is the newest observation, if it is one. -/
theorem observations_wrote (hbuilt : BuiltSpec em st observes built) :
    observations (st.wrote sink built).written =
      if observes then observations st.written ++ [built.event]
      else observations st.written := by
  rw [← hbuilt.kind]
  exact observations_snoc st.written built.event

theorem runIds_wrote (hbuilt : BuiltSpec em st observes built) :
    runIds (st.wrote sink built).written =
      if hasRunEventId built.event then runIds st.written ++ [em.randomUUID st.drawn]
      else runIds st.written := by
  have hsnoc := runIds_snoc st.written built.event
  split_ifs at hsnoc ⊢ with hid
  · rwa [(hbuilt.withId hid).1] at hsnoc
  · exact hsnoc

/-- A property of pairs holds of the observations if the new one has it with the old. -/
theorem pairwise_wrote (hbuilt : BuiltSpec em st observes built) {R : ℕ → ℕ → Prop}
    (h : (observations st.written).Pairwise fun a b => R (seqOf a) (seqOf b))
    (hnew : observes = true → ∀ event ∈ observations st.written, R (seqOf event) st.seq) :
    (observations (st.wrote sink built).written).Pairwise
      fun a b => R (seqOf a) (seqOf b) := by
  rw [observations_wrote hbuilt]
  cases observes with
  | false => exact h
  | true =>
      rw [if_pos rfl, List.pairwise_append]
      refine ⟨h, List.pairwise_singleton _ _, fun a ha b hb => ?_⟩
      rw [List.mem_singleton.mp hb, (hbuilt.observed rfl).1]
      exact hnew rfl a ha

/-- A property of the observations holds if the new one has it. -/
theorem forall_wrote (hbuilt : BuiltSpec em st observes built) {P : ℕ → Prop}
    (h : ∀ event ∈ observations st.written, P (seqOf event))
    (hnew : observes = true → P st.seq) :
    ∀ event ∈ observations (st.wrote sink built).written, P (seqOf event) := by
  rw [observations_wrote hbuilt]
  cases observes with
  | false => exact h
  | true =>
      rw [if_pos rfl]
      refine List.forall_mem_append.mpr ⟨h, List.forall_mem_singleton.mpr ?_⟩
      rw [(hbuilt.observed rfl).1]
      exact hnew rfl

/-- A call whose write succeeds. -/
theorem Emitted.wrote (hinjective : Function.Injective em.randomUUID)
    (h : Emitted em k st) (hbuilt : BuiltSpec em st observes built) :
    Emitted em (k + if observes then 1 else 0) (st.wrote sink built) := by
  have hcounted := h.counted hbuilt
  obtain ⟨hle, -, -⟩ := hbuilt.le_seq h.seq_le
  have hids := @runIds_wrote em _ sink _ _ _ hbuilt
  have hsubset : runIds st.written ⊆ runIds (st.wrote sink built).written := by
    rw [EmitterState.wrote, runIds_append]
    exact List.subset_append_left _ _
  refine
    { events := ?_
      suspended := ?_
      seq_le := hcounted.seq_le
      seq_le_count := hcounted.seq_le_count
      seqs_le := @forall_wrote _ _ _ _ _ _ hbuilt (· ≤ built.seq) hcounted.seqs_le
        fun _ => hle
      seqs_lt := fun hk => @forall_wrote _ _ _ _ _ _ hbuilt (· < built.seq)
        (hcounted.seqs_lt hk) ?_
      ordered := pairwise_wrote hbuilt h.ordered fun _ => h.seqs_le
      strict := fun hk => pairwise_wrote hbuilt (hcounted.strict hk) ?_
      ids := ?_
      nodup := ?_
      parent := fun p hp => hsubset (h.parent p hp)
      parents := h.parents.snoc fun p hp => h.parent p (hbuilt.event.parent p hp) }
  · exact List.forall_mem_append.mpr
      ⟨h.events, List.forall_mem_singleton.mpr hbuilt.event.toEmittable⟩
  · apply List.append_subset.mpr
    exact ⟨List.subset_append_of_subset_left _ h.suspended, List.subset_append_right _ _⟩
  · -- below the limit, the number was taken
    intro hobserves
    have hcount := h.seq_le_count
    rw [hobserves, if_pos rfl] at hk
    rw [(hbuilt.observed hobserves).2, nextSeq]
    omega
  · intro hobserves
    rw [hobserves, if_pos rfl] at hk
    exact h.seqs_lt (by omega)
  · rw [hids]
    split_ifs with hid
    · refine List.forall_mem_append.mpr ⟨hcounted.ids, List.forall_mem_singleton.mpr ?_⟩
      have hdrawn : (st.wrote sink built).drawn = st.drawn + 1 := (hbuilt.withId hid).2
      exact ⟨st.drawn, by omega, rfl⟩
    · exact hcounted.ids
  · rw [hids]
    split_ifs with hid
    · refine List.nodup_append.mpr ⟨h.nodup, List.nodup_singleton _, fun i hi j hj => ?_⟩
      obtain ⟨n, hn, rfl⟩ := h.ids i hi
      rw [List.mem_singleton.mp hj]
      intro heq
      exact hn.ne (hinjective heq)
    · exact h.nodup

end Built

/-- A call is resumed after its event was written. -/
theorem Emitted.resume {k : ℕ} {st : EmitterState σ} (h : Emitted em k st) (n : ℕ) :
    Emitted em k (emitStep em sink st (.resume n)).1 := by
  rw [emitStep]
  split
  · exact h
  · rename_i event hevent
    have hmem : event ∈ st.written := h.suspended (List.mem_of_getElem? hevent)
    refine { h with
      suspended := fun e he => h.suspended (List.mem_of_mem_eraseIdx he)
      parent := fun p hp => ?_ }
    dsimp only at hp
    split_ifs at hp with hid
    · rw [← Option.some.inj hp]
      exact List.mem_map_of_mem (List.mem_filter.mpr ⟨hmem, hid⟩)
    · exact h.parent p hp

theorem Emitted.step (hnonEmpty : ∀ n, em.randomUUID n ≠ "")
    (hinjective : Function.Injective em.randomUUID) {k : ℕ} {st : EmitterState σ}
    (h : Emitted em k st) {step : EmitStep} (hstep : step.Admissible) :
    Emitted em (k + if step.observes then 1 else 0) (emitStep em sink st step).1 := by
  cases step with
  | resume n => exact h.resume n
  | call input writeFails =>
      cases hbuild : buildEvent em st input with
      | error error =>
          rw [emitStep, hbuild]
          exact h.mono (Nat.le_add_right _ _)
      | ok built =>
          have hbuilt := buildEvent_spec (hnonEmpty st.drawn) h.seq_le hstep hbuild
          rw [emitStep, hbuild]
          cases writeFails with
          | true => exact h.counted hbuilt
          | false => exact h.wrote hinjective hbuilt

/-- After any run. -/
theorem Emitted.run (hnonEmpty : ∀ n, em.randomUUID n ≠ "")
    (hinjective : Function.Injective em.randomUUID) {k : ℕ} {st : EmitterState σ}
    (h : Emitted em k st) {steps : List EmitStep} (hsteps : ∀ step ∈ steps, step.Admissible) :
    Emitted em (k + steps.countP EmitStep.observes)
      (finish (emitStep em sink) st steps) := by
  induction steps generalizing k st with
  | nil => exact h
  | cons step steps ih =>
      obtain ⟨hstep, hrest⟩ := List.forall_mem_cons.mp hsteps
      have hrun := ih (@Emitted.step _ _ sink hnonEmpty hinjective _ _ h _ hstep) hrest
      rwa [finish_cons, List.countP_cons, Nat.add_comm (steps.countP _), ← Nat.add_assoc]

/-! ## What the sinks hold -/

/-- A sink has taken the written events, in order. -/
theorem sink_eq_foldl (em : CanonicalEventEmitter) (sink : EventSink σ) (init : σ)
    (steps : List EmitStep) :
    (finish (emitStep em sink) (.start init) steps).sink =
      (finish (emitStep em sink) (.start init) steps).written.foldl sink.write init := by
  have hstep : ∀ (st : EmitterState σ) (step : EmitStep),
      st.sink = st.written.foldl sink.write init →
      (emitStep em sink st step).1.sink =
        (emitStep em sink st step).1.written.foldl sink.write init := by
    intro st step h
    cases step with
    | resume n =>
        rw [emitStep]
        split
        · exact h
        · exact h
    | call input writeFails =>
        rw [emitStep]
        split
        · exact h
        · dsimp only
          split_ifs
          · exact h
          · dsimp only
            rw [List.foldl_append, ← h]
            rfl
  exact @finish_invariant _ _ _ _
    (fun st : EmitterState σ => st.sink = st.written.foldl sink.write init)
    hstep _ rfl steps

/-- The emitter's state without its sink. -/
def EmitterState.forget (st : EmitterState σ) : EmitterState Unit := { st with sink := () }

theorem buildEvent_forget (em : CanonicalEventEmitter) (st : EmitterState σ)
    (input : EmitCall) : buildEvent em st.forget input = buildEvent em st input := by
  cases input <;> rfl

theorem emitStep_forget (em : CanonicalEventEmitter) (sink : EventSink σ)
    (st : EmitterState σ) (step : EmitStep) :
    (emitStep em sink st step).1.forget =
      (emitStep em ⟨fun _ _ => ()⟩ st.forget step).1 := by
  cases step with
  | resume n =>
      rw [emitStep, emitStep]
      cases hevent : st.suspended[n]? with
      | none => simp [EmitterState.forget, hevent]
      | some event => simp [EmitterState.forget, hevent]
  | call input writeFails =>
      rw [emitStep, emitStep, buildEvent_forget]
      cases buildEvent em st input with
      | error error => rfl
      | ok built =>
          dsimp only
          split_ifs
          · rfl
          · rfl

/-- What is written does not depend on the sink. -/
theorem written_forget (em : CanonicalEventEmitter) (sink : EventSink σ) (init : σ)
    (steps : List EmitStep) :
    (finish (emitStep em sink) (.start init) steps).written =
      (finish (emitStep em ⟨fun _ _ => ()⟩) (.start ()) steps).written := by
  have hforget : ∀ st : EmitterState σ, (finish (emitStep em sink) st steps).forget =
      finish (emitStep em ⟨fun _ _ => ()⟩) st.forget steps := by
    induction steps with
    | nil => exact fun _ => rfl
    | cons step steps ih =>
        intro st
        rw [finish_cons, finish_cons, ih, emitStep_forget]
  exact congrArg EmitterState.written (hforget (.start init))

end

theorem foldl_bufferSink (events init : List Json) :
    events.foldl BufferSink.write init = init ++ events := by
  induction events generalizing init with
  | nil => simp
  | cons event events ih =>
      rw [List.foldl_cons, ih, BufferSink, List.append_assoc, List.singleton_append]

/-- The text of a file of events. -/
def eventLines (events : List Json) : List Char :=
  events.flatMap fun event => event.stringify.toList ++ ['\n']

theorem foldl_ndjsonFileSink (events : List Json) (bytes : Bytes) :
    events.foldl NdjsonFileSink.write (some bytes) =
      some (bytes ++ utf8Encode (eventLines events)) := by
  induction events generalizing bytes with
  | nil => simp [eventLines, utf8Encode]
  | cons event events ih =>
      have hwrite : NdjsonFileSink.write (some bytes) event =
          some (bytes ++ utf8Encode (event.stringify.toList ++ ['\n'])) := rfl
      rw [List.foldl_cons, hwrite, ih]
      simp [utf8Encode, eventLines]

/-- The first write creates the file. -/
theorem foldl_ndjsonFileSink_none (event : Json) (events : List Json) :
    (event :: events).foldl NdjsonFileSink.write none =
      (event :: events).foldl NdjsonFileSink.write (some []) := rfl

/-! ## What the loader reads -/

theorem splitLines_eventLine {event : Json} (h : event.WellFormed) (rest : List Char) :
    splitLines (event.stringify.toList ++ '\n' :: rest) =
      event.stringify.toList :: splitLines rest := by
  rw [← render_nil_gap 0]
  apply splitLines_line (lineBreak_not_mem_compact h 0)
  obtain ⟨text, last, htext, hvisible⟩ := endsVisible_render [] 0 h
  rw [htext, List.getLast?_concat]
  intro hlast
  rw [Option.some.inj hlast] at hvisible
  revert hvisible
  decide

theorem isBlank_stringify {event : Json} (h : event.WellFormed) :
    isBlank event.stringify.toList = false := by
  obtain ⟨text, last, htext, hvisible⟩ := endsVisible_render [] 0 h
  have hne : trimChars event.stringify.toList ≠ [] := by
    intro hnil
    rw [← render_nil_gap 0, htext] at hnil
    have hblank := (trimChars_eq_nil_iff _).mp hnil last (by simp)
    exact absurd (hvisible.symm.trans hblank) Bool.false_ne_true
  rw [isBlank]
  exact beq_eq_false_iff_ne.mpr hne

theorem readLine_stringify {event : Json} (h : event.WellFormed)
    (hvalid : validateEvent event = true) :
    readLine event.stringify.toList = some ⟨event, hvalid⟩ := by
  have hparse := parseJson_stringify h (by simp : ∀ c ∈ ([] : List Char), _)
  rw [List.append_nil] at hparse
  rw [readLine, hparse]
  exact dif_pos hvalid

/-- The loader finds the events of the lines, all of them valid and of the workflow. -/
theorem validEvents_eventLines {em : CanonicalEventEmitter} {events : List Json}
    (h : ∀ event ∈ events, Emittable em event) :
    ∃ runEvents : List RunEvent, runEvents.map RunEvent.json = events ∧
      validEvents (splitLines (eventLines events)) = runEvents ∧
      malformedLines (splitLines (eventLines events)) = 0 ∧
      ofWorkflow em.workflowId runEvents = runEvents := by
  induction events with
  | nil => exact ⟨[], rfl, rfl, rfl, rfl⟩
  | cons event events ih =>
      obtain ⟨hevent, hrest⟩ := List.forall_mem_cons.mp h
      obtain ⟨runEvents, hmap, hvalid, hmalformed, hworkflow⟩ := ih hrest
      have hlines : splitLines (eventLines (event :: events)) =
          event.stringify.toList :: splitLines (eventLines events) := by
        have hsplit := splitLines_eventLine hevent.wellFormed (eventLines events)
        rwa [eventLines, List.flatMap_cons, List.append_assoc, List.singleton_append]
      have hblank := isBlank_stringify hevent.wellFormed
      have hread := readLine_stringify hevent.wellFormed hevent.valid
      refine ⟨⟨event, hevent.valid⟩ :: runEvents, ?_, ?_, ?_, ?_⟩
      · rw [List.map_cons, hmap]
      · rw [hlines, validEvents, List.filter_cons_of_pos (by simp [hblank]),
          List.filterMap_cons_some hread]
        exact congrArg _ hvalid
      · rw [hlines, malformedLines, List.filter_cons_of_pos (by simp [hblank]),
          List.countP_cons_of_neg (by simp [hread])]
        exact hmalformed
      · rw [ofWorkflow, List.filter_cons_of_pos]
        · exact congrArg _ hworkflow
        · simp [RunEvent.workflowId, hevent.workflow]

/-- The events of a file of lines in the order of their `seq`. -/
theorem loadText_eventLines (dateParse : String → Option ℤ) {em : CanonicalEventEmitter}
    {events : List Json} (h : ∀ event ∈ events, Emittable em event)
    (hordered : (observations events).Pairwise fun a b => seqOf a ≤ seqOf b) :
    (loadText dateParse em.workflowId (eventLines events)).runEvents.map RunEvent.json =
        events ∧
      (loadText dateParse em.workflowId (eventLines events)).events.map RunEvent.json =
        observations events ∧
      (loadText dateParse em.workflowId (eventLines events)).runLevelReasons = [] ∧
      captureOrderNotMonotonicInSeq ∉ (loadText dateParse em.workflowId
        (eventLines events)).eventSequenceIntegrity.reasons := by
  obtain ⟨runEvents, hmap, hvalid, hmalformed, hworkflow⟩ := validEvents_eventLines h
  obtain ⟨hruns, hevents, hreasons, hintegrity⟩ :=
    loadText_eq dateParse em.workflowId (eventLines events)
  have hobserved : (runEvents.filter (·.isToolObserved)).map RunEvent.json =
      observations events := by
    rw [← hmap, observations, List.filter_map]
    rfl
  have hsorted : (runEvents.filter (·.isToolObserved)).Pairwise fun a b => a.seq ≤ b.seq := by
    rw [← hobserved] at hordered
    rwa [List.pairwise_map] at hordered
  rw [hvalid, hworkflow] at hruns hevents hintegrity
  refine ⟨?_, ?_, ?_, ?_⟩
  · rw [hruns, hmap]
  · rw [hevents, stableSort_of_pairwise hsorted, hobserved]
  · rw [hreasons, hmalformed]
    rfl
  · rw [hintegrity]
    exact captureOrder_not_mem (captureIrregular_of_pairwise hsorted nofun)

/-! ## Emitted runs load -/

theorem loadEventsForWorkflow_sink (dateParse : String → Option ℤ)
    {em : CanonicalEventEmitter} {events : List Json} {file : Option Bytes} {bytes : Bytes}
    (hfile : file.getD [] = [])
    (hbytes : events.foldl NdjsonFileSink.write file = some bytes) :
    loadEventsForWorkflow dateParse (.ok bytes) em.workflowId =
      .ok (loadText dateParse em.workflowId (eventLines events)) := by
  have htext : bytes = utf8Encode (eventLines events) := by
    cases file with
    | some old =>
        obtain rfl : old = [] := hfile
        rw [foldl_ndjsonFileSink] at hbytes
        exact (Option.some.inj hbytes).symm
    | none =>
        cases events with
        | nil => cases hbytes
        | cons event events =>
            rw [foldl_ndjsonFileSink_none, foldl_ndjsonFileSink] at hbytes
            exact (Option.some.inj hbytes).symm
  rw [loadEventsForWorkflow, htext, utf8Decode_utf8Encode]

theorem written_eq_nil_of_no_file {events : List Json} {file : Option Bytes}
    (h : events.foldl NdjsonFileSink.write file = none) : events = [] := by
  cases events with
  | nil => rfl
  | cons event events =>
      have hsome : ∀ bytes, NdjsonFileSink.write file event = some bytes →
          (event :: events).foldl NdjsonFileSink.write file ≠ none := by
        intro bytes hbytes
        rw [List.foldl_cons, hbytes, foldl_ndjsonFileSink]
        exact Option.some_ne_none _
      exact absurd h (hsome _ rfl)

/-- After any calls and resumptions on a file that is new or empty, whichever writes
fail: parents stand before their children, and the loader finds in the file what was
written, all of it, without a reason of its own.  The `seq` of the observations never
decreases, and increases as long as no more than `2 ^ 53 + 1` are asked for. -/
theorem emitted_run_loads (em : CanonicalEventEmitter)
    (hnonEmpty : ∀ n, em.randomUUID n ≠ "")
    (hinjective : Function.Injective em.randomUUID) (dateParse : String → Option ℤ)
    (file : Option Bytes) (hfile : file.getD [] = []) (steps : List EmitStep)
    (hsteps : ∀ step ∈ steps, step.Admissible) :
    let st := finish (emitStep em NdjsonFileSink) (.start file) steps
    ((observations st.written).Pairwise fun a b => seqOf a ≤ seqOf b) ∧
      (steps.countP EmitStep.observes ≤ 2 ^ 53 + 1 →
        (observations st.written).Pairwise fun a b => seqOf a < seqOf b) ∧
      ParentsEarlier st.written ∧ assertValidRunEventParentGraph st.written = .ok () ∧
      (finish (emitStep em BufferSink) (.start []) steps).sink = st.written ∧
      (st.sink = none → st.written = []) ∧
      ∀ bytes, st.sink = some bytes → ∃ loaded,
        loadEventsForWorkflow dateParse (.ok bytes) em.workflowId = .ok loaded ∧
          loaded.runEvents.map RunEvent.json = st.written ∧
          loaded.events.map RunEvent.json = observations st.written ∧
          loaded.runLevelReasons = [] ∧
          captureOrderNotMonotonicInSeq ∉ loaded.eventSequenceIntegrity.reasons := by
  intro st
  have hrun : Emitted em (0 + steps.countP EmitStep.observes) st :=
    (Emitted.start em file).run hnonEmpty hinjective hsteps
  have hsink : st.sink = st.written.foldl NdjsonFileSink.write file :=
    sink_eq_foldl em NdjsonFileSink file steps
  rw [Nat.zero_add] at hrun
  refine ⟨hrun.ordered, hrun.strict, hrun.parents,
    assertValidRunEventParentGraph_of_parentsEarlier hrun.nodup hrun.parents, ?_, ?_, ?_⟩
  · rw [sink_eq_foldl, foldl_bufferSink, List.nil_append, written_forget]
    exact (written_forget em NdjsonFileSink file steps).symm
  · intro hnone
    exact written_eq_nil_of_no_file (hsink.symm.trans hnone)
  · intro bytes hbytes
    exact ⟨_, loadEventsForWorkflow_sink dateParse hfile (hsink.symm.trans hbytes),
      loadText_eventLines dateParse hrun.events hrun.ordered⟩

/-- An emitter with ids of distinct lengths. -/
def sampleEmitter : CanonicalEventEmitter where
  workflowId := "w"
  nonBlank := by decide
  defaultToolObservedSchemaVersion := .v2
  randomUUID n := String.ofList (List.replicate (n + 1) 'x')

/-- An observation with empty parameters. -/
def sampleObservation (version : Option ObservedVersion) (writeFails : Bool) : EmitStep :=
  .call (.emitToolObserved "t" (.obj []) none version) writeFails

theorem sampleObservation_admissible (version : Option ObservedVersion) (writeFails : Bool) :
    (sampleObservation version writeFails).Admissible :=
  ⟨⟨.nil, by simp [propertyOrder], trivial⟩, rfl⟩

theorem emitted_run_loads_overlapping :
    let st := finish (emitStep sampleEmitter NdjsonFileSink) (.start none)
      [sampleObservation none false, sampleObservation none true,
        sampleObservation (some .v1) false, .resume 0, sampleObservation none false]
    ParentsEarlier st.written ∧ assertValidRunEventParentGraph st.written = .ok () := by
  have hall := emitted_run_loads sampleEmitter (by simp [sampleEmitter])
    (by
      intro m n h
      have hlength := congrArg String.length h
      simpa [sampleEmitter] using hlength)
    (fun _ => none) none rfl
    [sampleObservation none false, sampleObservation none true,
      sampleObservation (some .v1) false, .resume 0, sampleObservation none false]
    (by
      simp only [List.forall_mem_cons]
      exact ⟨sampleObservation_admissible _ _, sampleObservation_admissible _ _,
        sampleObservation_admissible _ _, trivial, sampleObservation_admissible _ _, nofun⟩)
  exact ⟨hall.2.2.1, hall.2.2.2.1⟩

/-! ## A run that is too long -/

section

variable {σ : Type} (sink : EventSink σ)

theorem emitStep_sampleObservation (st : EmitterState σ) :
    (emitStep sampleEmitter sink st (sampleObservation (some .v1) false)).1 =
      st.wrote sink (toolObservedV1 sampleEmitter st "t" (.obj []) none) := rfl

theorem sampleObservation_spec {st : EmitterState σ} (hseq : st.seq ≤ 2 ^ 53) :
    BuiltSpec sampleEmitter st true (toolObservedV1 sampleEmitter st "t" (.obj []) none) := by
  obtain ⟨hparams, hobject⟩ := sampleObservation_admissible (some .v1) false
  exact toolObservedV1_spec hseq (by decide) hparams hobject

/-- The counter after `n` observations. -/
theorem seq_after (n : ℕ) {st : EmitterState σ} (hseq : st.seq ≤ 2 ^ 53) :
    (finish (emitStep sampleEmitter sink) st
      (List.replicate n (sampleObservation (some .v1) false))).seq =
      min (st.seq + n) (2 ^ 53) := by
  induction n generalizing st with
  | zero => exact (Nat.min_eq_left hseq).symm
  | succ n ih =>
      have hnext : (st.wrote sink (toolObservedV1 sampleEmitter st "t" (.obj []) none)).seq =
          min (st.seq + 1) (2 ^ 53) := rfl
      rw [List.replicate_succ, finish_cons, emitStep_sampleObservation,
        ih (hnext.trans_le (Nat.min_le_right _ _)), hnext]
      omega

/-- Two observations after the counter has reached its end have the same `seq`. -/
theorem observations_repeat {st : EmitterState σ} (hseq : st.seq = 2 ^ 53) :
    ¬ (observations (finish (emitStep sampleEmitter sink) st
      (List.replicate 2 (sampleObservation (some .v1) false))).written).Pairwise
        fun a b => seqOf a < seqOf b := by
  intro hstrict
  let first := toolObservedV1 sampleEmitter st "t" (.obj []) none
  let second := toolObservedV1 sampleEmitter (st.wrote sink first) "t" (.obj []) none
  have hnext : (st.wrote sink first).seq = 2 ^ 53 := by
    show nextSeq st.seq = 2 ^ 53
    rw [hseq, nextSeq]
    omega
  have hfirst := sampleObservation_spec hseq.le
  have hsecond := sampleObservation_spec hnext.le
  have hwritten : (finish (emitStep sampleEmitter sink) st
      (List.replicate 2 (sampleObservation (some .v1) false))).written =
      st.written ++ [first.event] ++ [second.event] := rfl
  rw [hwritten, observations_snoc, hsecond.kind, observations_snoc, hfirst.kind] at hstrict
  have hlt := (List.pairwise_append.mp hstrict).2.2 first.event (by simp) second.event
    (by simp)
  rw [(hfirst.observed rfl).1, (hsecond.observed rfl).1, hseq, hnext] at hlt
  exact lt_irrefl _ hlt

end

/-- The counter is a JS number: after `2 ^ 53 + 2` observations one `seq` stands twice. -/
theorem emitted_run_repeats_seq :
    (∀ step ∈ List.replicate (2 ^ 53 + 2) (sampleObservation (some .v1) false),
        step.Admissible) ∧
      ¬ (observations (finish (emitStep sampleEmitter NdjsonFileSink) (.start none)
        (List.replicate (2 ^ 53 + 2) (sampleObservation (some .v1) false))).written).Pairwise
          fun a b => seqOf a < seqOf b := by
  constructor
  · intro step hstep
    rw [List.eq_of_mem_replicate hstep]
    exact sampleObservation_admissible _ _
  · rw [List.replicate_add, finish_append]
    apply observations_repeat
    rw [seq_after _ _ (Nat.zero_le _)]
    show min (0 + 2 ^ 53) (2 ^ 53) = 2 ^ 53
    omega

end AgentSkeptic.Events

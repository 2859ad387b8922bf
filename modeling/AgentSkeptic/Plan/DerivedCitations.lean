import AgentSkeptic.Plan.TransitionRules

/-!
# Cited paths and their steps

A citation is a link target or a backtick path that is harvested, with the path that it is
normalised to.  The rule that is derived from it asks for that path, which has no character
that a glob gives a meaning to (`normalizeAndQualify_plain`), so that its step is verified
exactly when a row has the path (`derivedStep_verified_iff`): not when a row has the text
that was cited.
-/

namespace AgentSkeptic.Plan

open AgentSkeptic.Support AgentSkeptic.Events AgentSkeptic.Engine

/-! ## Citations -/

section Citations

variable (fileUrlPath : Text → Option Text)

/-- What a fragment cites, with the path of each. -/
def fragmentCitations (fragment : Text) : List (Text × Text) :=
  if PathPatterns.referenceOnlyLineRe.test fragment then []
  else
    (extractLinkTargets fragment ++ extractBacktickPaths fragment).filterMap fun cited =>
      match normalizeAndQualify fileUrlPath cited with
      | some path => if pathPassesFragmentGate path fragment then some (cited, path) else none
      | none => none

/-- What a plan with this body and front matter cites. -/
def planCitations (body : Text) (fm : Json) : List (Text × Text) :=
  (bodyFragments body ++ todoSegments fm).flatMap (fragmentCitations fileUrlPath)

end Citations

/-- What a plan cites. -/
def citationsOf (rt : PlanRuntime) (rawMarkdown : Text) : List (Text × Text) :=
  let md := stripUtf8Bom rawMarkdown
  match extractPlanFrontMatterYamlSource md, extractMarkdownBodyAfterFrontMatter md with
  | .ok yamlSrc, .ok body =>
      match rt.parseYaml yamlSrc with
      | .ok doc => planCitations rt.fileUrlPath (lfCanonical body) (frontMatterOf doc)
      | .error _ => []
  | _, _ => []

/-! ## What is harvested -/

section Harvest

variable {fileUrlPath : Text → Option Text}

theorem mem_addTo {into : List Text} {p q : Text} : q ∈ addTo into p ↔ q ∈ into ∨ q = p := by
  rw [addTo]
  split_ifs with hp
  · constructor
    · exact .inl
    · rintro (hq | rfl)
      · exact hq
      · exact hp
  · rw [List.mem_append, List.mem_singleton]

/-- What a loop adds to a set, when each turn adds what has a property. -/
theorem mem_foldl_iff {ι : Type} {step : List Text → ι → List Text} {Adds : ι → Text → Prop}
    (hstep : ∀ into a q, q ∈ step into a ↔ q ∈ into ∨ Adds a q) (items : List ι)
    (into : List Text) (q : Text) :
    q ∈ items.foldl step into ↔ q ∈ into ∨ ∃ a ∈ items, Adds a q := by
  induction items generalizing into with
  | nil => simp
  | cons a items ih =>
      rw [List.foldl_cons, ih, hstep, or_assoc]
      simp

theorem mem_addQualified (into : List Text) (c q : Text) :
    q ∈ addQualified fileUrlPath into c ↔
      q ∈ into ∨ normalizeAndQualify fileUrlPath c = some q := by
  rw [addQualified.eq_def]
  cases hc : normalizeAndQualify fileUrlPath c with
  | none => simp
  | some p =>
      rw [mem_addTo, Option.some.injEq]
      exact or_congr_right eq_comm

theorem mem_harvestFromText {text q : Text} :
    q ∈ harvestFromText fileUrlPath text [] ↔
      ∃ c ∈ extractLinkTargets text ++ extractBacktickPaths text,
        normalizeAndQualify fileUrlPath c = some q := by
  rw [harvestFromText, mem_foldl_iff mem_addQualified, mem_foldl_iff mem_addQualified]
  simp only [List.not_mem_nil, false_or, List.mem_append, or_and_right, exists_or]

theorem mem_fragmentCitations {fragment cited path : Text} :
    (cited, path) ∈ fragmentCitations fileUrlPath fragment ↔
      PathPatterns.referenceOnlyLineRe.test fragment = false ∧
        cited ∈ extractLinkTargets fragment ++ extractBacktickPaths fragment ∧
        normalizeAndQualify fileUrlPath cited = some path ∧
        pathPassesFragmentGate path fragment = true := by
  rw [fragmentCitations]
  cases hreference : PathPatterns.referenceOnlyLineRe.test fragment with
  | true => simp
  | false =>
      rw [if_neg Bool.false_ne_true, List.mem_filterMap]
      simp only [true_and]
      constructor
      · rintro ⟨c, hc, hkept⟩
        cases hq : normalizeAndQualify fileUrlPath c with
        | none =>
            rw [hq] at hkept
            cases hkept
        | some p =>
            simp only [hq] at hkept
            split_ifs at hkept with hgate
            obtain ⟨rfl, rfl⟩ := Prod.mk.inj (Option.some.inj hkept)
            exact ⟨hc, hq, hgate⟩
      · rintro ⟨hc, hq, hgate⟩
        exact ⟨cited, hc, by simp only [hq, hgate, if_true]⟩

theorem mem_harvestFromFragment (into : List Text) (fragment q : Text) :
    q ∈ harvestFromFragment fileUrlPath into fragment ↔
      q ∈ into ∨ ∃ cited, (cited, q) ∈ fragmentCitations fileUrlPath fragment := by
  rw [harvestFromFragment]
  cases hreference : PathPatterns.referenceOnlyLineRe.test fragment with
  | true => simp [mem_fragmentCitations, hreference]
  | false =>
      rw [if_neg Bool.false_ne_true]
      have hturn : ∀ (into : List Text) (p q : Text),
          q ∈ (if pathPassesFragmentGate p fragment then addTo into p else into) ↔
            q ∈ into ∨ (pathPassesFragmentGate p fragment = true ∧ q = p) := by
        intro into p q
        split_ifs with hgate
        · rw [mem_addTo]
          simp [hgate]
        · simp [hgate]
      rw [mem_foldl_iff hturn]
      apply or_congr_right
      simp only [mem_harvestFromText, mem_fragmentCitations, hreference, true_and]
      constructor
      · rintro ⟨p, ⟨c, hc, hq⟩, hgate, rfl⟩
        exact ⟨c, hc, hq, hgate⟩
      · rintro ⟨c, hc, hq, hgate⟩
        exact ⟨q, ⟨c, hc, hq⟩, hgate, rfl⟩

theorem mem_harvestFromTodoSegment (into : List Text) (segment q : Text) :
    q ∈ harvestFromTodoSegment fileUrlPath into segment ↔
      q ∈ into ∨ ∃ cited, (cited, q) ∈ fragmentCitations fileUrlPath segment := by
  rw [harvestFromTodoSegment]
  cases hreference : PathPatterns.referenceOnlyLineRe.test segment with
  | true => simp [mem_fragmentCitations, hreference]
  | false =>
      rw [if_neg Bool.false_ne_true]
      exact mem_harvestFromFragment into segment q

/-- The harvested paths are those of the citations. -/
theorem mem_harvestPaths {body : Text} {fm : Json} {p : String} :
    p ∈ harvestPaths fileUrlPath body fm ↔
      ∃ c ∈ planCitations fileUrlPath body fm, String.ofList c.2 = p := by
  have hsorted : ∀ paths : List String, p ∈ sortUtf16 paths ↔ p ∈ paths :=
    fun paths => (List.mergeSort_perm paths utf16Le).mem_iff
  have hadded : ∀ q, (q ∈ (todoSegments fm).foldl (harvestFromTodoSegment fileUrlPath)
      ((bodyFragments body).foldl (harvestFromFragment fileUrlPath) [])) ↔
      ∃ cited, (cited, q) ∈ planCitations fileUrlPath body fm := by
    intro q
    rw [mem_foldl_iff mem_harvestFromTodoSegment, mem_foldl_iff mem_harvestFromFragment]
    simp only [List.not_mem_nil, false_or, planCitations, List.mem_flatMap, List.mem_append]
    constructor
    · rintro (⟨f, hf, cited, hc⟩ | ⟨f, hf, cited, hc⟩)
      · exact ⟨cited, f, .inl hf, hc⟩
      · exact ⟨cited, f, .inr hf, hc⟩
    · rintro ⟨cited, f, hf | hf, hc⟩
      · exact .inl ⟨f, hf, cited, hc⟩
      · exact .inr ⟨f, hf, cited, hc⟩
  rw [harvestPaths, hsorted, List.mem_map]
  constructor
  · rintro ⟨q, hq, rfl⟩
    obtain ⟨cited, hc⟩ := (hadded q).mp hq
    exact ⟨(cited, q), hc, rfl⟩
  · rintro ⟨⟨cited, q⟩, hc, rfl⟩
    exact ⟨q, (hadded q).mpr ⟨cited, hc⟩, rfl⟩

end Harvest

/-! ## The paths have no glob in them -/

/-- A character of a harvested path. -/
def isPlainChar (c : Char) : Bool := PathPatterns.isPathChar c || c == '/'

namespace PathPatterns

open Regex

theorem within_rootedPath : rootedPath.Within fun c => isPlainChar c = true := by
  have hliteral : ∀ name ∈ rootNames,
      (literal name).Within fun c => isPlainChar c = true := by
    intro name hname
    apply within_word
    intro c hc d hd
    rw [← of_decide_eq_true hd]
    have hall : rootNames.all fun name => name.toList.all isPlainChar := by decide
    exact List.all_eq_true.mp (List.all_eq_true.mp hall name hname) c hc
  have hslash : slash.Within fun c => isPlainChar c = true := by
    intro c hc
    have hc : (c == '/') = true := hc
    rw [isPlainChar, hc, Bool.or_true]
  have hsegment : segment.Within fun c => isPlainChar c = true := by
    have hchar : ∀ c, isPathChar c = true → isPlainChar c = true := by
      intro c hc
      rw [isPlainChar, hc, Bool.true_or]
    exact ⟨hchar, hchar⟩
  apply within_inOrder
  intro r hr
  simp only [List.mem_cons, List.not_mem_nil, or_false] at hr
  rcases hr with rfl | rfl | rfl | rfl
  · apply within_choice
    intro r hr
    obtain ⟨name, hname, rfl⟩ := List.mem_map.mp hr
    exact hliteral name hname
  · exact hslash
  · exact hsegment
  · exact ⟨hslash, hsegment⟩

theorem groupsRead_qualifiedPathRe : qualifiedPathRe.GroupsRead fun n v =>
    n = 1 → ∀ c ∈ v, isPlainChar c = true := by
  have hinner : rootedPath.GroupsRead fun n v =>
      n = 1 → ∀ c ∈ v, isPlainChar c = true := by
    apply groupsRead_inOrder
    intro r hr
    simp only [List.mem_cons, List.not_mem_nil, or_false] at hr
    rcases hr with rfl | rfl | rfl | rfl
    · apply groupsRead_choice
      intro r hr
      obtain ⟨name, -, rfl⟩ := List.mem_map.mp hr
      exact groupsRead_word _ _ _
    · trivial
    · exact ⟨trivial, trivial⟩
    · exact ⟨trivial, trivial, trivial⟩
  apply groupsRead_inOrder
  intro r hr
  simp only [List.mem_cons, List.not_mem_nil, or_false] at hr
  rcases hr with rfl | rfl | rfl | rfl | rfl
  · trivial
  · exact ⟨fun s t ht _ => readTo_within within_rootedPath ht, hinner⟩
  · trivial
  · exact groupsRead_plus fun v _ _ hn => absurd hn (by decide)
  · trivial

end PathPatterns

theorem qualify_plain {P path : Text} (h : qualify P = some path) :
    path ≠ [] ∧ ∀ c ∈ path, isPlainChar c = true := by
  rw [qualify] at h
  split_ifs at h
  cases hexec : PathPatterns.qualifiedPathRe.exec P with
  | none =>
      rw [hexec] at h
      cases h
  | some pm =>
      simp only [hexec] at h
      split_ifs at h with hallowed
      obtain rfl := Option.some.inj h
      refine ⟨by simp, ?_⟩
      intro c hc
      rcases List.mem_append.mp hc with hgroup | hext
      · cases hpath : pm.group 1 with
        | none =>
            rw [hpath] at hgroup
            exact absurd hgroup List.not_mem_nil
        | some v =>
            rw [hpath] at hgroup
            exact Regex.group_read PathPatterns.groupsRead_qualifiedPathRe hexec hpath rfl c
              hgroup
      · have hplain : ∀ ext ∈ allowedExt, ∀ c ∈ '.' :: ext.toList, isPlainChar c = true := by
          have hall : allowedExt.all fun ext => ('.' :: ext.toList).all isPlainChar := by
            decide
          intro ext hmem
          exact List.all_eq_true.mp (List.all_eq_true.mp hall ext hmem)
        apply hplain _ (List.contains_iff_mem.mp hallowed)
        rw [String.toList_ofList]
        exact hext

/-- What a citation is normalised to is not empty, and is of plain characters. -/
theorem normalizeAndQualify_plain {fileUrlPath : Text → Option Text} {cited path : Text}
    (h : normalizeAndQualify fileUrlPath cited = some path) :
    path ≠ [] ∧ ∀ c ∈ path, isPlainChar c = true := by
  rw [normalizeAndQualify] at h
  dsimp only at h
  split_ifs at h
  split at h
  · cases h
  · exact qualify_plain h
/-! ## Derived rules -/

variable {rt : PlanRuntime}

/-- Rules of the body section are said to be. -/
theorem bodySectionRules_source {lines : List Text} {i : ℕ} {loaded : LoadedRules}
    (h : bodySectionRules rt lines i = .ok loaded) : loaded.source = .bodySection := by
  rw [bodySectionRules.eq_def] at h
  dsimp only at h
  split at h
  · cases h
  split at h
  · cases h
  split_ifs at h
  rw [bodyBlockRules.eq_def] at h
  split at h
  · cases h
  obtain ⟨rules, -, hloaded⟩ := bind_eq_ok.mp h
  cases hloaded
  rfl

/-- A text with front matter has no byte order mark. -/
theorem stripUtf8Bom_of_frontMatter {md body : Text}
    (h : extractMarkdownBodyAfterFrontMatter md = .ok body) : stripUtf8Bom md = md := by
  obtain ⟨cut, hcut, -⟩ := bind_eq_ok.mp h
  obtain ⟨rest, hopening, -⟩ := bind_eq_ok.mp hcut
  cases md with
  | nil => rfl
  | cons c md =>
      rw [stripUtf8Bom]
      split_ifs with hmark
      · have hdash : c = '-' := by
          rw [afterOpening.eq_def] at hopening
          split at hopening
          · rename_i heq
            exact (List.cons.inj heq).1
          · rename_i heq
            exact (List.cons.inj heq).1
          · cases hopening
        rw [hdash] at hmark
        exact absurd hmark (by decide)
      · rfl

/-- Rules from citations are those of the harvested paths. -/
theorem loadPlanTransitionRules_derived {rawMarkdown : Text} {rules : List PlanRule}
    (h : loadPlanTransitionRules rt rawMarkdown = .ok ⟨rules, .derivedCitations⟩) :
    ∃ body fm, citationsOf rt rawMarkdown = planCitations rt.fileUrlPath body fm ∧
      rules = (harvestPaths rt.fileUrlPath body fm).mapIdx derivedRule := by
  obtain ⟨yamlSrc, hyaml, hparsed⟩ := bind_eq_ok.mp h
  cases hdoc : rt.parseYaml yamlSrc with
  | error e =>
      rw [hdoc] at hparsed
      cases hparsed
  | ok doc =>
      simp only [hdoc] at hparsed
      rw [rulesOfPlan.eq_def] at hparsed
      split at hparsed
      · obtain ⟨written, -, hwritten⟩ := bind_eq_ok.mp hparsed
        cases hwritten
      obtain ⟨body, hbody, hlines⟩ := bind_eq_ok.mp hparsed
      refine ⟨lfCanonical body, frontMatterOf doc, ?_, ?_⟩
      · simp only [citationsOf, hyaml, hbody, hdoc]
      dsimp only at hlines
      split at hlines
      · obtain ⟨harvested, hharvested, hrules⟩ := bind_eq_ok.mp hlines
        split_ifs at hrules
        obtain rfl : harvested.mapIdx derivedRule = rules := by
          simpa using hrules
        rw [harvestQualifyingPathsFromPlan, stripUtf8Bom_of_frontMatter hbody] at hharvested
        obtain ⟨body', hbody', hpaths⟩ := bind_eq_ok.mp hharvested
        obtain rfl : body = body' := Except.ok.inj (hbody.symm.trans hbody')
        rw [← Except.ok.inj hpaths]
      · have hsource := bodySectionRules_source hlines
        cases hsource
      · cases hlines

/-- A glob of plain characters matches the path that it is. -/
def MatchesPlain (isMatch : String → String → Bool) : Prop :=
  ∀ path pattern : String, pattern ≠ "" → (∀ c ∈ pattern.toList, isPlainChar c = true) →
    (isMatch path pattern = true ↔ path = pattern)

/-- Some row other than an unmerged one has the path, with slashes for backslashes. -/
def HasRow (rows : List PlanDiffRow) (path : Text) : Prop :=
  ∃ row ∈ rows, row.rowKind ≠ .unmerged ∧
    ∃ p ∈ row.paths, normalizePathSlashes p.toList = String.ofList path

theorem contains_derivedCitationRequireRowKinds (k : PlanDiffRowKind) :
    derivedCitationRequireRowKinds.contains k = true ↔ k ≠ .unmerged := by
  cases k <;> decide

theorem evaluateRule_derivedRule_status (rows : List PlanDiffRow) (i seq : ℕ)
    (pattern : String) :
    (evaluateRule rt rows (derivedRule i pattern) seq).status =
      if rows.any fun row =>
          rowMatchesPatternAndKinds rt row pattern derivedCitationRequireRowKinds
      then .verified else .inconsistent := by
  have hcheck : (derivedRule i pattern).check =
      .requireMatchingRow pattern derivedCitationRequireRowKinds := rfl
  rw [evaluateRule.eq_def, hcheck, apply_ite StepOutcome.status]
  rfl

/-- A derived rule is satisfied by the rows that have its path. -/
theorem derivedRule_verified_iff (hmatch : MatchesPlain rt.isMatch) {path : Text}
    (hne : path ≠ []) (hplain : ∀ c ∈ path, isPlainChar c = true)
    (rows : List PlanDiffRow) (i seq : ℕ) :
    (evaluateRule rt rows (derivedRule i (String.ofList path)) seq).status = .verified ↔
      HasRow rows path := by
  have hpattern : ∀ p : String, pathMatchesPattern rt p (String.ofList path) = true ↔
      normalizePathSlashes p.toList = String.ofList path := by
    intro p
    apply hmatch
    · intro hempty
      have htoList := congrArg String.toList hempty
      rw [String.toList_ofList] at htoList
      exact hne htoList
    · rw [String.toList_ofList]
      exact hplain
  have hrow : ∀ row : PlanDiffRow, rowMatchesPatternAndKinds rt row (String.ofList path)
      derivedCitationRequireRowKinds = true ↔ row.rowKind ≠ .unmerged ∧
        ∃ p ∈ row.paths, normalizePathSlashes p.toList = String.ofList path := by
    intro row
    rw [rowMatchesPatternAndKinds, rowTouchesPattern, Bool.and_eq_true,
      contains_derivedCitationRequireRowKinds, List.any_eq_true, and_comm]
    simp only [hpattern]
  have hany : (rows.any fun row => rowMatchesPatternAndKinds rt row (String.ofList path)
      derivedCitationRequireRowKinds) = true ↔ HasRow rows path := by
    rw [List.any_eq_true, HasRow]
    simp only [hrow]
  rw [evaluateRule_derivedRule_status, ← hany]
  split_ifs with hhit
  · exact ⟨fun _ => hhit, fun _ => rfl⟩
  · exact ⟨fun hstatus => absurd hstatus (by decide), fun h => absurd h hhit⟩

/-- **Cited paths.**  The step of a citation is verified exactly when a row has the path
that the citation is normalised to; so a citation that is such a path itself is satisfied
by the row that has it. -/
theorem derivedStep_verified_iff (hmatch : MatchesPlain rt.isMatch) {rawMarkdown : Text}
    {rules : List PlanRule}
    (h : loadPlanTransitionRules rt rawMarkdown = .ok ⟨rules, .derivedCitations⟩)
    {cited path : Text} (hcited : (cited, path) ∈ citationsOf rt rawMarkdown)
    (rows : List PlanDiffRow) :
    ∃ i step, rules[i]? = some (derivedRule i (String.ofList path)) ∧
      (evaluatePlanRules rt rows rules)[i]? = some step ∧
      (step.status = .verified ↔ HasRow rows path) ∧
      (normalizePathSlashes cited = String.ofList path →
        (∃ row ∈ rows, row.rowKind ≠ .unmerged ∧ String.ofList cited ∈ row.paths) →
          step.status = .verified) := by
  obtain ⟨body, fm, hcitations, hrules⟩ := loadPlanTransitionRules_derived h
  rw [hcitations] at hcited
  obtain ⟨fragment, -, hfragment⟩ := List.mem_flatMap.mp hcited
  obtain ⟨-, -, hqualified, -⟩ := mem_fragmentCitations.mp hfragment
  obtain ⟨hne, hplain⟩ := normalizeAndQualify_plain hqualified
  have hharvested : String.ofList path ∈ harvestPaths rt.fileUrlPath body fm :=
    mem_harvestPaths.mpr ⟨(cited, path), hcited, rfl⟩
  obtain ⟨i, hi⟩ := List.mem_iff_getElem?.mp hharvested
  have hrule : rules[i]? = some (derivedRule i (String.ofList path)) := by
    rw [hrules, List.getElem?_mapIdx, hi, Option.map_some]
  have hiff := derivedRule_verified_iff hmatch hne hplain rows i (i + 1)
  refine ⟨i, _, hrule, ?_, hiff, ?_⟩
  · rw [evaluatePlanRules, List.getElem?_mapIdx, hrule, Option.map_some]
  · rintro hself ⟨row, hrow, hkind, hpath⟩
    apply hiff.mpr
    refine ⟨row, hrow, hkind, String.ofList cited, hpath, ?_⟩
    rw [String.toList_ofList]
    exact hself
/-- The step of each citation is verified when a row has the text that is cited. -/
def CitedPathsVerified (rt : PlanRuntime) (rawMarkdown : Text) (rules : List PlanRule)
    (rows : List PlanDiffRow) : Prop :=
  ∀ cited path, (cited, path) ∈ citationsOf rt rawMarkdown →
    (∃ row ∈ rows, row.rowKind ≠ .unmerged ∧ String.ofList cited ∈ row.paths) →
      ∃ i step, rules[i]? = some (derivedRule i (String.ofList path)) ∧
        (evaluatePlanRules rt rows rules)[i]? = some step ∧ step.status = .verified

/-! ## A sample plan -/

/-- The front matter of the samples is `title: Demo`. -/
def sampleRuntime : PlanRuntime where
  parseYaml _ := .ok (.obj [("title", .str "Demo")])
  fileUrlPath _ := none
  isMatch path pattern := path = pattern
  schemaErrors _ := "[]"

/-- A plan with one section, of one line. -/
def samplePlan (line : String) : Text :=
  ("---\ntitle: Demo\n---\n\n## Implementation\n\n" ++ line ++ "\n").toList

def plainPlan : Text := samplePlan "Add `src/page.ts`."

def plainLoaded : LoadedRules := ⟨[derivedRule 0 "src/page.ts"], .derivedCitations⟩

/-- The extension is written in capitals. -/
def capitalsPlan : Text := samplePlan "Add `src/page.TS`."

theorem ok_of_toOption {ε α : Type} {x : Except ε α} {a : α} (h : x.toOption = some a) :
    x = .ok a := by
  cases x with
  | error e => cases h
  | ok b => exact congrArg _ (Option.some.inj h)

theorem sample_citations :
    citationsOf sampleRuntime plainPlan = [("src/page.ts".toList, "src/page.ts".toList)] ∧
      citationsOf sampleRuntime capitalsPlan =
        [("src/page.TS".toList, "src/page.ts".toList)] := by
  decide +kernel

theorem sample_rules :
    (loadPlanTransitionRules sampleRuntime plainPlan).toOption = some plainLoaded ∧
      (loadPlanTransitionRules sampleRuntime capitalsPlan).toOption = some plainLoaded := by
  decide +kernel

theorem sample_matches : MatchesPlain sampleRuntime.isMatch := by
  intro path pattern _ _
  exact decide_eq_true_iff

theorem derivedStep_verified_plainPlan :
    ∃ i step, plainLoaded.rules[i]? = some (derivedRule i (String.ofList "src/page.ts".toList)) ∧
      (evaluatePlanRules sampleRuntime [⟨.modify, ["src/page.ts"]⟩] plainLoaded.rules)[i]? =
        some step ∧
      (step.status = .verified ↔
        HasRow [⟨.modify, ["src/page.ts"]⟩] "src/page.ts".toList) ∧
      (normalizePathSlashes "src/page.ts".toList = String.ofList "src/page.ts".toList →
        (∃ row ∈ [(⟨.modify, ["src/page.ts"]⟩ : PlanDiffRow)], row.rowKind ≠ .unmerged ∧
          String.ofList "src/page.ts".toList ∈ row.paths) → step.status = .verified) :=
  derivedStep_verified_iff sample_matches (ok_of_toOption sample_rules.1)
    (by rw [sample_citations.1]; exact .head _) [⟨.modify, ["src/page.ts"]⟩]

/-- The row of the cited file does not satisfy the rule of the citation. -/
theorem capitals_not_verified :
    loadPlanTransitionRules sampleRuntime capitalsPlan = .ok plainLoaded ∧
      ¬CitedPathsVerified sampleRuntime capitalsPlan plainLoaded.rules
        [⟨.modify, ["src/page.TS"]⟩] := by
  refine ⟨ok_of_toOption sample_rules.2, fun h => ?_⟩
  have hcited : ("src/page.TS".toList, "src/page.ts".toList) ∈
      citationsOf sampleRuntime capitalsPlan := by
    rw [sample_citations.2]
    exact .head _
  obtain ⟨i, step, -, hstep, hverified⟩ := h _ _ hcited ⟨_, .head _, by decide, by decide⟩
  have hstatus : (evaluatePlanRules sampleRuntime [⟨.modify, ["src/page.TS"]⟩]
      plainLoaded.rules).map (·.status) = [.inconsistent] := by decide +kernel
  have hmem := List.mem_map_of_mem (f := (·.status)) (List.mem_of_getElem? hstep)
  rw [hstatus, hverified] at hmem
  exact absurd hmem (by decide)

end AgentSkeptic.Plan

import AgentSkeptic.Quick.TableScoring
import Mathlib

/-!
# Table scoring and its document

The definitions A.9.1 to A.9.5 of `docs/quick-verify-normative.md`, and what the code
makes of them.  The document folds `A-Z` to `a-z`; the code replaces the text `A-Z`, so
that it leaves upper case as it is.  The two agree on lower case, and on nothing else:
`tableScoring_normative`.
-/

namespace AgentSkeptic.Quick

open AgentSkeptic.Support

/-! ## The document -/

namespace Normative

/-- `A-Z` to `a-z`. -/
def foldAscii (text : List Char) : List Char := text.map Char.toLower

/-- `V2`. -/
def englishSingular (v1 : List Char) : List Char :=
  let endsWith (suffix : String) := suffix.toList.isSuffixOf v1
  if endsWith "ies" ∧ 4 ≤ v1.length then sliceEnd 3 v1 ++ ['y']
  else if endsWith "ses" ∨ endsWith "xes" ∨ endsWith "ches" ∨ endsWith "shes" then
    sliceEnd 2 v1
  else if endsWith "s" ∧ ¬ endsWith "ss" then sliceEnd 1 v1
  else v1

/-- `V3`. -/
def englishPlural (v1 : List Char) : List Char :=
  match v1.reverse with
  | 'y' :: prev :: rest =>
      if isVowel prev then v1 ++ ['s']
      else (prev :: rest).reverse ++ ['i', 'e', 's']
  | 's' :: _ => v1
  | _ => v1 ++ ['s']

/-- A.9.1. -/
def variants (table : String) : List String :=
  let v1 := foldAscii table.toList
  [table, String.ofList v1, String.ofList (englishSingular v1),
    String.ofList (englishPlural v1)].dedup.insertionSort fun a b => utf16Le a b = true

/-- A.9.2. -/
def tokens (toolName : String) : List String :=
  ((toolName.toList.splitOnP fun c => !c.isAlphanum).filter (· ≠ [])).map fun t =>
    String.ofList (foldAscii t)

/-- A.9.3. -/
def tableScore (toolName table : String) : ℚ :=
  bestScore ((tokens toolName).flatMap fun t =>
    (variants table).map (tokenMatchScore t))

/-- A.9.5. -/
def segmentTableScore (seg0 table : String) : ℚ :=
  bestScore ((variants table).map (tokenMatchScore (String.ofList (foldAscii seg0.toList))))

end Normative

/-! ## Lower case -/

def IsLowerCase (text : List Char) : Prop := ∀ c ∈ text, c.isUpper = false

instance (text : List Char) : Decidable (IsLowerCase text) :=
  List.decidableBAll (fun c : Char => c.isUpper = false) text

theorem isUpper_toLower (c : Char) : c.toLower.isUpper = false := by
  simp only [Char.isUpper, Char.toLower]
  split <;> grind [UInt32.toNat_add, Char.toNat_val]

theorem toLower_of_not_isUpper {c : Char} (h : c.isUpper = false) : c.toLower = c := by
  simp_all [Char.isUpper, UInt32.le_iff_toNat_le, Char.toLower]

theorem foldAscii_isLowerCase (text : List Char) :
    IsLowerCase (Normative.foldAscii text) := by
  intro c hc
  obtain ⟨d, -, rfl⟩ := List.mem_map.mp hc
  exact isUpper_toLower d

theorem foldAscii_of_isLowerCase {text : List Char} (h : IsLowerCase text) :
    Normative.foldAscii text = text := by
  have hid : text.map Char.toLower = text.map id :=
    List.map_congr_left fun c hc => toLower_of_not_isUpper (h c hc)
  rw [Normative.foldAscii, hid, List.map_id]

theorem foldRange_of_isLowerCase {text : List Char} (h : IsLowerCase text) :
    foldRange text = text := by
  induction text using foldRange.induct with
  | case1 rest ih => exact absurd (h 'A' List.mem_cons_self) (by decide)
  | case2 c rest hc ih =>
      rw [foldRange, ih fun d hd => h d (List.mem_cons_of_mem c hd)]
      exact hc
  | case3 => rfl

/-! ## What a spelling keeps

Neither spelling of a noun touches a dash or an upper-case letter. -/

/-- The dashes and upper-case letters of a text. -/
def marks (text : List Char) : List Char := text.filter fun c => c = '-' || c.isUpper

theorem marks_append (a b : List Char) : marks (a ++ b) = marks a ++ marks b :=
  List.filter_append a b

theorem marks_cons_of_mark {c : Char} (h : (c = '-' || c.isUpper) = true)
    (text : List Char) : marks (c :: text) = c :: marks text := List.filter_cons_of_pos h

theorem marks_cons_of_not_mark {c : Char} (h : (c = '-' || c.isUpper) = false)
    (text : List Char) : marks (c :: text) = marks text :=
  List.filter_cons_of_neg (Bool.eq_false_iff.mp h)

theorem count_marks (text : List Char) : (marks text).count '-' = text.count '-' :=
  List.count_filter (by decide)

theorem toLower_eq_dash_iff (c : Char) : c.toLower = '-' ↔ c = '-' := by
  by_cases hupper : c.isUpper = true
  · refine iff_of_false ?_ ?_
    · intro h
      have hval := congrArg Char.val h
      simp only [Char.isUpper, Char.toLower] at hval hupper
      split at hval <;> grind [UInt32.toNat_add, Char.toNat_val]
    · rintro rfl
      exact absurd hupper (by decide)
  · rw [toLower_of_not_isUpper (Bool.eq_false_iff.mpr hupper)]

theorem count_foldAscii (text : List Char) :
    (Normative.foldAscii text).count '-' = text.count '-' := by
  rw [Normative.foldAscii, List.count_eq_countP, List.count_eq_countP, List.countP_map]
  apply List.countP_congr
  intro c _
  simp [toLower_eq_dash_iff]

/-- A dash is lost with each `A-Z`. -/
theorem count_foldRange_le (text : List Char) :
    (foldRange text).count '-' ≤ text.count '-' := by
  induction text using foldRange.induct with
  | case1 rest ih =>
      rw [foldRange, List.count_cons_of_ne (by decide), List.count_cons_of_ne (by decide),
        List.count_cons_self, List.count_cons_of_ne (by decide)]
      omega
  | case2 c rest hc ih =>
      rw [foldRange.eq_2 c rest hc, List.count_cons, List.count_cons]
      omega
  | case3 => exact le_refl _

/-- The folds are not even alike in their marks where there is upper case. -/
theorem isLowerCase_of_marks_foldRange {text : List Char}
    (h : marks (foldRange text) = marks (Normative.foldAscii text)) : IsLowerCase text := by
  induction text using foldRange.induct with
  | case1 rest ih =>
      have hcount := congrArg (List.count '-') h
      rw [count_marks, count_marks, count_foldAscii, foldRange,
        List.count_cons_of_ne (by decide), List.count_cons_of_ne (by decide),
        List.count_cons_self, List.count_cons_of_ne (by decide)] at hcount
      have hle := count_foldRange_le rest
      omega
  | case2 c rest hc ih =>
      rw [foldRange.eq_2 c rest hc] at h
      have hlower : c.isUpper = false := by
        by_contra hupper
        rw [Bool.not_eq_false] at hupper
        have hmem : c ∈ marks (Normative.foldAscii (c :: rest)) := by
          rw [← h, marks_cons_of_mark (by rw [hupper, Bool.or_true])]
          exact List.mem_cons_self
        have hfalse := foldAscii_isLowerCase _ c (List.mem_of_mem_filter hmem)
        exact absurd (hupper.symm.trans hfalse) (by decide)
      have hfold : Normative.foldAscii (c :: rest) = c :: Normative.foldAscii rest := by
        rw [Normative.foldAscii, List.map_cons, toLower_of_not_isUpper hlower]
        rfl
      have hrest : marks (foldRange rest) = marks (Normative.foldAscii rest) := by
        rw [hfold] at h
        by_cases hmark : (c = '-' || c.isUpper) = true
        · rw [marks_cons_of_mark hmark, marks_cons_of_mark hmark] at h
          exact (List.cons.inj h).2
        · rw [Bool.not_eq_true] at hmark
          rw [marks_cons_of_not_mark hmark, marks_cons_of_not_mark hmark] at h
          exact h
      exact List.forall_mem_cons.mpr ⟨hlower, ih hrest⟩
  | case3 => exact fun c hc => absurd hc List.not_mem_nil

theorem marks_sliceEnd {n : ℕ} {suffix text : List Char} (hend : suffix.isSuffixOf text = true)
    (hmarks : marks suffix = []) (hn : n ≤ suffix.length) :
    marks (sliceEnd n text) = marks text := by
  obtain ⟨front, rfl⟩ := List.isSuffixOf_iff_suffix.mp hend
  have htake : sliceEnd n (front ++ suffix) = front ++ sliceEnd n suffix := by
    rw [sliceEnd, sliceEnd, List.length_append, Nat.add_sub_assoc hn, List.take_length_add_append]
  have hpart : marks (sliceEnd n suffix) = [] := by
    rw [marks, List.filter_eq_nil_iff] at hmarks ⊢
    exact fun c hc => hmarks c (List.mem_of_mem_take hc)
  rw [htake, marks_append, marks_append, hpart, hmarks]

theorem marks_englishSingular (text : List Char) :
    marks (englishSingular text) = marks text := by
  unfold englishSingular
  dsimp only
  split_ifs with hies hes hs
  · rw [marks_append, marks_sliceEnd hies.2 (by decide) (by decide)]
    exact List.append_nil _
  · rcases hes with hend | hend | hend | hend
    · exact marks_sliceEnd hend (by decide) (by decide)
    · exact marks_sliceEnd hend (by decide) (by decide)
    · exact marks_sliceEnd hend (by decide) (by decide)
    · exact marks_sliceEnd hend (by decide) (by decide)
  · exact marks_sliceEnd hs.1 (by decide) (by decide)
  · rfl

theorem marks_englishPlural (text : List Char) :
    marks (englishPlural text) = marks text := by
  have hlast {last : Char} {front : List Char} (h : text.reverse = last :: front) :
      text = front.reverse ++ [last] := by
    rw [← List.reverse_reverse text, h, List.reverse_cons]
  have happend : marks (text ++ ['s']) = marks text := by
    rw [marks_append]
    exact List.append_nil _
  unfold englishPlural
  split
  · next h =>
      rw [List.reverse_eq_nil_iff.mp h]
  · next prev rest h =>
      split_ifs
      · exact happend
      · rw [hlast h, marks_append, marks_append]
        rfl
  · rfl
  · exact happend

/-! ## Scores -/

theorem tokenMatchScore_self (s : String) : tokenMatchScore s s = 1 := if_pos rfl

theorem tokenMatchScore_lt_one {s v : String} (h : s ≠ v) : tokenMatchScore s v < 1 := by
  rw [tokenMatchScore, if_neg h]
  split_ifs
  · decide +kernel
  · decide +kernel
  · exact one_pos

theorem tokenMatchScore_le_one (s v : String) : tokenMatchScore s v ≤ 1 := by
  by_cases h : s = v
  · rw [h, tokenMatchScore_self]
  · exact le_of_lt (tokenMatchScore_lt_one h)

theorem le_foldl_max (scores : List ℚ) (start : ℚ) : start ≤ scores.foldl max start := by
  induction scores generalizing start with
  | nil => exact le_refl _
  | cons x scores ih => exact le_trans (le_max_left start x) (ih (max start x))

theorem le_foldl_max_of_mem {scores : List ℚ} {x : ℚ} (hx : x ∈ scores) (start : ℚ) :
    x ≤ scores.foldl max start := by
  induction scores generalizing start with
  | nil => exact absurd hx List.not_mem_nil
  | cons y scores ih =>
      rcases List.mem_cons.mp hx with rfl | hrest
      · exact le_trans (le_max_right start x) (le_foldl_max scores _)
      · exact ih hrest _

theorem foldl_max_lt {scores : List ℚ} {start bound : ℚ} (hstart : start < bound)
    (h : ∀ x ∈ scores, x < bound) : scores.foldl max start < bound := by
  induction scores generalizing start with
  | nil => exact hstart
  | cons x scores ih =>
      obtain ⟨hx, hrest⟩ := List.forall_mem_cons.mp h
      exact ih (max_lt hstart hx) hrest

theorem foldl_max_le {scores : List ℚ} {start bound : ℚ} (hstart : start ≤ bound)
    (h : ∀ x ∈ scores, x ≤ bound) : scores.foldl max start ≤ bound := by
  induction scores generalizing start with
  | nil => exact hstart
  | cons x scores ih =>
      obtain ⟨hx, hrest⟩ := List.forall_mem_cons.mp h
      exact ih (max_le hstart hx) hrest

theorem bestScore_nonneg (scores : List ℚ) : 0 ≤ bestScore scores := le_foldl_max scores 0

/-- Only a spelling of the table itself scores 1. -/
theorem bestScore_eq_one_iff (s : String) (spellings : List String) :
    bestScore (spellings.map (tokenMatchScore s)) = 1 ↔ s ∈ spellings := by
  constructor
  · intro h
    by_contra hs
    refine absurd h (ne_of_lt (foldl_max_lt one_pos fun x hx => ?_))
    obtain ⟨v, hv, rfl⟩ := List.mem_map.mp hx
    apply tokenMatchScore_lt_one
    rintro rfl
    exact hs hv
  · intro hs
    apply le_antisymm
    · refine foldl_max_le zero_le_one fun x hx => ?_
      obtain ⟨v, -, rfl⟩ := List.mem_map.mp hx
      exact tokenMatchScore_le_one s v
    · apply le_foldl_max_of_mem
      exact List.mem_map.mpr ⟨s, hs, tokenMatchScore_self s⟩

/-! ## Spellings of a table -/

theorem mem_variants {v table : String} : v ∈ variants table ↔
    v = table ∨ v = String.ofList (foldRange table.toList) ∨
      v = String.ofList (englishSingular (foldRange table.toList)) ∨
        v = String.ofList (englishPlural (foldRange table.toList)) := by
  rw [variants, List.mem_insertionSort, List.mem_dedup]
  simp

theorem mem_normative_variants {v table : String} : v ∈ Normative.variants table ↔
    v = table ∨ v = String.ofList (Normative.foldAscii table.toList) ∨
      v = String.ofList (Normative.englishSingular (Normative.foldAscii table.toList)) ∨
        v = String.ofList (Normative.englishPlural (Normative.foldAscii table.toList)) := by
  rw [Normative.variants, List.mem_insertionSort, List.mem_dedup]
  simp

theorem marks_of_mem_variants {v table : String} (h : v ∈ variants table) :
    marks v.toList = marks table.toList ∨
      marks v.toList = marks (foldRange table.toList) := by
  rcases mem_variants.mp h with rfl | rfl | rfl | rfl
  · exact .inl rfl
  · rw [String.toList_ofList]
    exact .inr rfl
  · rw [String.toList_ofList]
    exact .inr (marks_englishSingular _)
  · rw [String.toList_ofList]
    exact .inr (marks_englishPlural _)

/-- Neither fold lets an upper-case name pass for its lower-case one. -/
theorem marks_ne_foldAscii {text : List Char} (h : ¬IsLowerCase text) :
    marks text ≠ marks (Normative.foldAscii text) ∧
      marks (foldRange text) ≠ marks (Normative.foldAscii text) := by
  refine ⟨fun heq => h fun c hc => ?_, fun heq => h (isLowerCase_of_marks_foldRange heq)⟩
  by_contra hupper
  rw [Bool.not_eq_false] at hupper
  have hmem : c ∈ marks (Normative.foldAscii text) := by
    rw [← heq]
    exact List.mem_filter.mpr ⟨hc, by rw [hupper, Bool.or_true]⟩
  have hfalse := foldAscii_isLowerCase _ c (List.mem_of_mem_filter hmem)
  exact absurd (hupper.symm.trans hfalse) (by decide)

/-- A name that the code and the document spell alike. -/
def IsPlainTable (table : String) : Prop :=
  IsLowerCase table.toList ∧ table ≠ "" ∧ table ≠ "s"

theorem englishSingular_eq {text : List Char} (h : text ≠ ['s']) :
    englishSingular text = Normative.englishSingular text := by
  have hlong : "s".toList.isSuffixOf text = true → 1 < text.length := by
    intro hend
    obtain ⟨front, rfl⟩ := List.isSuffixOf_iff_suffix.mp hend
    cases front with
    | nil => exact absurd rfl h
    | cons c front => simp
  unfold englishSingular Normative.englishSingular
  dsimp only
  refine if_congr and_comm rfl (if_congr Iff.rfl rfl (if_congr ?_ rfl rfl))
  exact ⟨fun hand => ⟨hand.1, hand.2.1⟩, fun hand => ⟨hand.1, hand.2, hlong hand.1⟩⟩

theorem englishPlural_eq {text : List Char} (h : text ≠ []) :
    englishPlural text = Normative.englishPlural text := by
  have hne : text.reverse ≠ [] := fun hnil => h (List.reverse_eq_nil_iff.mp hnil)
  unfold englishPlural Normative.englishPlural
  split
  · next hnil => exact absurd hnil hne
  · next prev rest hrev => simp only [hrev]
  · next front hrev => simp only [hrev]
  · next _ hy hs =>
      split
      · next prev rest hrev => exact absurd hrev (hy prev rest)
      · next front hrev => exact absurd hrev (hs front)
      · rfl

theorem variants_eq {table : String} (h : IsPlainTable table) :
    variants table = Normative.variants table := by
  obtain ⟨hlower, hempty, hs⟩ := h
  have hnil : table.toList ≠ [] := fun hnil => hempty (String.toList_eq_nil_iff.mp hnil)
  have hsingle : table.toList ≠ ['s'] := by
    intro heq
    apply hs
    rw [← String.ofList_toList (s := table), heq]
  unfold variants Normative.variants
  dsimp only
  rw [foldRange_of_isLowerCase hlower, foldAscii_of_isLowerCase hlower,
    englishSingular_eq hsingle, englishPlural_eq hnil]

/-! ## Segments -/

/-- A name that the code does not fold does not reach the table of its lower-case name. -/
theorem ofList_foldRange_notMem {text : List Char} (h : ¬IsLowerCase text) :
    String.ofList (foldRange text) ∉
      variants (String.ofList (Normative.foldAscii text)) := by
  intro hmem
  have hlower := foldAscii_isLowerCase text
  have hmarks := marks_of_mem_variants hmem
  rw [String.toList_ofList, String.toList_ofList, foldRange_of_isLowerCase hlower,
    or_self] at hmarks
  exact (marks_ne_foldAscii h).2 hmarks

theorem segment_agrees {seg0 table : String} (hseg : IsLowerCase seg0.toList)
    (htable : IsPlainTable table) :
    scoreSegmentToTable seg0 table = Normative.segmentTableScore seg0 table := by
  rw [scoreSegmentToTable, Normative.segmentTableScore, variants_eq htable,
    foldRange_of_isLowerCase hseg, foldAscii_of_isLowerCase hseg]

theorem eq_of_toLower_eq_s {c : Char} (h : c.toLower = 's') (hupper : c.isUpper = true) :
    c = 'S' := by
  have hval := congrArg Char.val h
  simp only [Char.isUpper, Char.toLower] at hval hupper
  apply Char.ext
  split at hval <;> grind [UInt32.toNat_add, Char.toNat_val]

theorem segment_isLowerCase {seg0 : String}
    (h : ∀ table, IsPlainTable table →
      scoreSegmentToTable seg0 table = Normative.segmentTableScore seg0 table) :
    IsLowerCase seg0.toList := by
  by_contra hupper
  obtain ⟨c, hc, hcupper⟩ : ∃ c ∈ seg0.toList, c.isUpper = true := by
    simpa [IsLowerCase] using hupper
  by_cases hs : String.ofList (Normative.foldAscii seg0.toList) = "s"
  · -- A table `s` is read in two ways, so the one that shows the difference is `xs`.
    have hsingle : seg0.toList.map Char.toLower = ['s'] := String.ofList_inj.mp hs
    obtain ⟨d, hd, hlower⟩ := List.map_eq_singleton_iff.mp hsingle
    rw [hd, List.mem_singleton] at hc
    subst hc
    have hseg : seg0 = "S" := by
      rw [← String.ofList_toList (s := seg0), hd, eq_of_toLower_eq_s hlower hcupper]
    have hxs := h "xs" ⟨by decide, by decide, by decide⟩
    rw [hseg] at hxs
    revert hxs
    decide +kernel
  · have hplain : IsPlainTable (String.ofList (Normative.foldAscii seg0.toList)) := by
      refine ⟨?_, ?_, hs⟩
      · rw [String.toList_ofList]
        exact foldAscii_isLowerCase _
      · intro hempty
        have hnil : Normative.foldAscii seg0.toList = [] := by
          rw [← String.toList_ofList (l := Normative.foldAscii seg0.toList), hempty]
          rfl
        rw [List.map_eq_nil_iff.mp hnil] at hc
        exact absurd hc List.not_mem_nil
    have hscore : Normative.segmentTableScore seg0
        (String.ofList (Normative.foldAscii seg0.toList)) = 1 :=
      (bestScore_eq_one_iff _ _).mpr (mem_normative_variants.mpr (.inl rfl))
    rw [← h _ hplain] at hscore
    exact ofList_foldRange_notMem hupper ((bestScore_eq_one_iff _ _).mp hscore)

/-- A table that lower-case segments find as the document says is plain. -/
theorem table_isPlain {table : String}
    (h : ∀ seg0 : String, IsLowerCase seg0.toList →
      scoreSegmentToTable seg0 table = Normative.segmentTableScore seg0 table) :
    IsPlainTable table := by
  refine ⟨?_, ?_, ?_⟩
  · by_contra hupper
    have hlower : IsLowerCase (String.ofList (Normative.foldAscii table.toList)).toList := by
      rw [String.toList_ofList]
      exact foldAscii_isLowerCase _
    have hscore : Normative.segmentTableScore
        (String.ofList (Normative.foldAscii table.toList)) table = 1 := by
      apply (bestScore_eq_one_iff _ _).mpr
      rw [foldAscii_of_isLowerCase hlower, String.toList_ofList]
      exact mem_normative_variants.mpr (.inr (.inl rfl))
    rw [← h _ hlower] at hscore
    have hmem := (bestScore_eq_one_iff _ _).mp hscore
    rw [foldRange_of_isLowerCase hlower] at hmem
    have hmarks := marks_of_mem_variants hmem
    rw [String.toList_ofList, String.toList_ofList] at hmarks
    rcases hmarks with heq | heq
    · exact (marks_ne_foldAscii hupper).1 heq.symm
    · exact (marks_ne_foldAscii hupper).2 heq.symm
  · rintro rfl
    have hs := h "s" (by decide)
    revert hs
    decide +kernel
  · rintro rfl
    have hx := h "x" (by decide)
    revert hx
    decide +kernel

/-! ## Tools -/

theorem mem_of_mem_splitOnP {p : Char → Bool} {text piece : List Char} {c : Char}
    (hpiece : piece ∈ text.splitOnP p) (hc : c ∈ piece) : c ∈ text := by
  induction text generalizing piece with
  | nil =>
      rw [List.splitOnP_nil, List.mem_singleton] at hpiece
      rw [hpiece] at hc
      exact hc
  | cons d text ih =>
      rw [List.splitOnP_cons_eq_if_modifyHead] at hpiece
      split_ifs at hpiece
      · rcases List.mem_cons.mp hpiece with rfl | hrest
        · exact absurd hc List.not_mem_nil
        · exact List.mem_cons_of_mem d (ih hrest hc)
      · cases hsplit : text.splitOnP p with
        | nil => exact absurd hsplit (List.splitOnP_ne_nil p text)
        | cons first rest =>
            rw [hsplit] at hpiece ih
            rcases List.mem_cons.mp hpiece with rfl | hrest
            · rcases List.mem_cons.mp hc with rfl | hfirst
              · exact List.mem_cons_self
              · exact List.mem_cons_of_mem d (ih List.mem_cons_self hfirst)
            · exact List.mem_cons_of_mem d (ih (List.mem_cons_of_mem first hrest) hc)

theorem tokens_agree {toolName : String} (h : IsLowerCase toolName.toList) :
    tokens toolName = Normative.tokens toolName := by
  unfold tokens Normative.tokens
  apply List.map_congr_left
  intro t ht
  have hlower : IsLowerCase t := fun c hc =>
    h c (mem_of_mem_splitOnP (List.mem_of_mem_filter ht) hc)
  rw [foldRange_of_isLowerCase hlower, foldAscii_of_isLowerCase hlower]

theorem tool_agrees {toolName table : String} (hname : IsLowerCase toolName.toList)
    (htable : IsPlainTable table) :
    tableScoreAction toolName table = Normative.tableScore toolName table := by
  rw [tableScoreAction, Normative.tableScore, tokens_agree hname, variants_eq htable]

/-- A tool name that is one token is scored as a segment. -/
theorem tool_of_oneToken {toolName : String} (hne : toolName ≠ "")
    (h : ∀ c ∈ toolName.toList, c.isAlphanum = true) (table : String) :
    tableScoreAction toolName table = scoreSegmentToTable toolName table ∧
      Normative.tableScore toolName table =
        Normative.segmentTableScore toolName table := by
  have hpieces : ((toolName.toList.splitOnP fun c => !c.isAlphanum).filter (· ≠ [])) =
      [toolName.toList] := by
    have hnil : toolName.toList ≠ [] := fun hnil => hne (String.toList_eq_nil_iff.mp hnil)
    rw [List.splitOnP_eq_singleton fun c hc => by rw [h c hc]; rfl,
      List.filter_cons_of_pos (by simpa using hnil), List.filter_nil]
  constructor
  · rw [tableScoreAction, tokens, hpieces, List.map_singleton, List.flatMap_singleton]
    rfl
  · rw [Normative.tableScore, Normative.tokens, hpieces, List.map_singleton,
      List.flatMap_singleton]
    rfl

/-! ## The best table -/

/-- A name is not before `best`: it has a lower score, or the same and a name that is
not smaller. -/
def NotBefore (score : String → ℚ) (best name : String) : Prop :=
  score name < score best ∨ score name = score best ∧ utf16Le best name = true

theorem utf16Le_refl (a : String) : utf16Le a a = true := by
  simpa using utf16Le_total a a

theorem NotBefore.refl (score : String → ℚ) (name : String) : NotBefore score name name :=
  .inr ⟨rfl, utf16Le_refl name⟩

theorem NotBefore.trans {score : String → ℚ} {a b c : String} (hab : NotBefore score a b)
    (hbc : NotBefore score b c) : NotBefore score a c := by
  rcases hab with hlt | ⟨heq, hle⟩
  · rcases hbc with hlt' | ⟨heq', -⟩
    · exact .inl (lt_trans hlt' hlt)
    · exact .inl (by rw [heq']; exact hlt)
  · rcases hbc with hlt' | ⟨heq', hle'⟩
    · exact .inl (by rw [← heq]; exact hlt')
    · exact .inr ⟨heq'.trans heq, utf16Le_trans hle hle'⟩

theorem NotBefore.antisymm {score : String → ℚ} {a b : String} (hab : NotBefore score a b)
    (hba : NotBefore score b a) : a = b := by
  rcases hab with hlt | ⟨heq, hle⟩
  · rcases hba with hlt' | ⟨heq', -⟩
    · exact absurd hlt' (not_lt.mpr hlt.le)
    · exact absurd heq' (ne_of_gt hlt)
  · rcases hba with hlt' | ⟨-, hle'⟩
    · exact absurd heq (ne_of_gt hlt')
    · exact utf16Le_antisymm hle hle'

/-- One name of the loop. -/
def argmaxStep (score : String → ℚ) (best : String × ℚ) (name : String) : String × ℚ :=
  if best.2 < score name ∨
      (score name = best.2 ∧ argmaxName.utf16Lt name best.1) then
    (name, score name)
  else best

theorem argmaxStep_scored (score : String → ℚ) (best name : String) :
    ∃ best', argmaxStep score (best, score best) name = (best', score best') ∧
      (best' = best ∨ best' = name) ∧ NotBefore score best' best ∧
        NotBefore score best' name := by
  rw [argmaxStep]
  split_ifs with h
  · refine ⟨name, rfl, .inr rfl, ?_, .refl score name⟩
    rcases h with hlt | ⟨heq, hlt⟩
    · exact .inl hlt
    · have hnot : utf16Le best name = false := by simpa [argmaxName.utf16Lt] using hlt
      refine .inr ⟨heq.symm, ?_⟩
      simpa [hnot] using utf16Le_total best name
  · refine ⟨best, rfl, .inl rfl, .refl score best, ?_⟩
    obtain ⟨hle, htie⟩ := not_or.mp h
    rcases lt_or_eq_of_le (not_lt.mp hle) with hlt | heq
    · exact .inl hlt
    · refine .inr ⟨heq, ?_⟩
      have hnotLt : ¬argmaxName.utf16Lt name best = true := fun hlt => htie ⟨heq, hlt⟩
      simpa [argmaxName.utf16Lt] using hnotLt

theorem foldl_argmaxStep (score : String → ℚ) (best : String) (names : List String) :
    ∃ best', names.foldl (argmaxStep score) (best, score best) = (best', score best') ∧
      best' ∈ best :: names ∧ ∀ name ∈ best :: names, NotBefore score best' name := by
  induction names generalizing best with
  | nil =>
      refine ⟨best, rfl, List.mem_cons_self, fun name hname => ?_⟩
      rw [List.mem_singleton.mp hname]
      exact .refl score best
  | cons name names ih =>
      obtain ⟨next, hstep, hnext, hbest, hname⟩ := argmaxStep_scored score best name
      obtain ⟨best', hfold, hmem, hall⟩ := ih next
      refine ⟨best', by rw [List.foldl_cons, hstep, hfold], ?_, fun other hother => ?_⟩
      · rcases List.mem_cons.mp hmem with rfl | hrest
        · rcases hnext with rfl | rfl
          · exact List.mem_cons_self
          · exact List.mem_cons_of_mem best List.mem_cons_self
        · exact List.mem_cons_of_mem best (List.mem_cons_of_mem name hrest)
      · have hfirst := hall next List.mem_cons_self
        rcases List.mem_cons.mp hother with rfl | hother
        · exact hfirst.trans hbest
        · rcases List.mem_cons.mp hother with rfl | hrest
          · exact hfirst.trans hname
          · exact hall other (List.mem_cons_of_mem next hrest)

/-- The loop finds the best of some names. -/
theorem argmaxName_best {score : String → ℚ} {names : List String} (hne : names ≠ [])
    (hpos : ∀ name, 0 ≤ score name) :
    (argmaxName score names).1 ∈ names ∧
      (argmaxName score names).2 = score (argmaxName score names).1 ∧
        ∀ name ∈ names, NotBefore score (argmaxName score names).1 name := by
  obtain ⟨first, rest, rfl⟩ := List.exists_cons_of_ne_nil hne
  obtain ⟨best, hfold, hmem, hall⟩ := foldl_argmaxStep score first rest
  have hfirst : argmaxStep score (first, -1) first = (first, score first) := by
    have hneg : (-1 : ℚ) < score first := lt_of_lt_of_le (by decide) (hpos first)
    rw [argmaxStep, if_pos (.inl hneg)]
  have hrun : argmaxName score (first :: rest) = (best, max 0 (score best)) := by
    have hloop : (first :: rest).foldl (argmaxStep score) (first, -1) =
        (best, score best) := by
      rw [List.foldl_cons, hfirst, hfold]
    exact congrArg (fun loop : String × ℚ => (loop.1, max 0 loop.2)) hloop
  rw [hrun]
  exact ⟨hmem, max_eq_right (hpos best), hall⟩

/-- The order of the names does not matter. -/
theorem argmaxName_perm {score : String → ℚ} {names names' : List String}
    (h : names.Perm names') (hpos : ∀ name, 0 ≤ score name) :
    argmaxName score names = argmaxName score names' := by
  by_cases hnil : names = []
  · subst hnil
    rw [List.nil_perm.mp h]
  have hnil' : names' ≠ [] := by
    rintro rfl
    exact hnil (List.perm_nil.mp h)
  obtain ⟨hmem, hscore, hall⟩ := argmaxName_best hnil hpos
  obtain ⟨hmem', hscore', hall'⟩ := argmaxName_best hnil' hpos
  have hsame := (hall _ (h.mem_iff.mpr hmem')).antisymm (hall' _ (h.mem_iff.mp hmem))
  apply Prod.ext hsame
  rw [hscore, hscore', hsame]

/-! ## Where the code follows the document -/

theorem segmentScore_nonneg (seg0 table : String) : 0 ≤ scoreSegmentToTable seg0 table :=
  bestScore_nonneg _

theorem toolScore_nonneg (toolName table : String) : 0 ≤ tableScoreAction toolName table :=
  bestScore_nonneg _

/-- On lower-case names the scores are those of the document, an exact match that ignores
case scores 1, and folding changes nothing; a segment, a tool name of one token and a table
that agree with the document on all lower-case names are lower case themselves.  The best
table is always the first in UTF-16 order of those with the best score. -/
theorem tableScoring_normative (toolName seg0 table name : String)
    (tables tables' : List String) :
    (IsLowerCase toolName.toList → IsPlainTable table →
      tableScoreAction toolName table = Normative.tableScore toolName table) ∧
    ((∀ table, IsPlainTable table →
        scoreSegmentToTable seg0 table = Normative.segmentTableScore seg0 table) ↔
      IsLowerCase seg0.toList) ∧
    (toolName ≠ "" → (∀ c ∈ toolName.toList, c.isAlphanum = true) →
      ((∀ table, IsPlainTable table →
        tableScoreAction toolName table = Normative.tableScore toolName table) ↔
      IsLowerCase toolName.toList)) ∧
    ((∀ seg0 : String, IsLowerCase seg0.toList →
        scoreSegmentToTable seg0 table = Normative.segmentTableScore seg0 table) ↔
      IsPlainTable table) ∧
    (IsLowerCase seg0.toList → IsPlainTable table →
      scoreSegmentToTable (String.ofList (Normative.foldAscii seg0.toList)) table =
          scoreSegmentToTable seg0 table ∧
        tableScoreAction (String.ofList (Normative.foldAscii seg0.toList)) table =
          tableScoreAction seg0 table ∧
        (Normative.foldAscii seg0.toList = Normative.foldAscii table.toList →
          scoreSegmentToTable seg0 table = 1)) ∧
    (tables.Perm tables' → tables ≠ [] →
      argmaxTableSegment name tables = argmaxTableSegment name tables' ∧
      argmaxTableAction name tables = argmaxTableAction name tables' ∧
      ((argmaxTableSegment name tables).1 ∈ tables ∧
        (argmaxTableSegment name tables).2 =
          scoreSegmentToTable name (argmaxTableSegment name tables).1 ∧
        ∀ table ∈ tables,
          NotBefore (scoreSegmentToTable name) (argmaxTableSegment name tables).1 table) ∧
      (argmaxTableAction name tables).1 ∈ tables ∧
        (argmaxTableAction name tables).2 =
          tableScoreAction name (argmaxTableAction name tables).1 ∧
        ∀ table ∈ tables,
          NotBefore (tableScoreAction name) (argmaxTableAction name tables).1 table) := by
  refine ⟨tool_agrees, ⟨segment_isLowerCase, ?_⟩,
    fun hne hname => ⟨fun h => ?_, fun h table => tool_agrees h⟩,
    ⟨table_isPlain, ?_⟩, fun hseg htable => ?_,
    fun hperm hne => ⟨?_, ?_, ?_, ?_⟩⟩
  · exact fun hseg table => segment_agrees hseg
  · apply segment_isLowerCase
    intro table htable
    obtain ⟨hscore, hspec⟩ := tool_of_oneToken hne hname table
    rw [← hscore, ← hspec]
    exact h table htable
  · exact fun htable seg0 hseg => segment_agrees hseg htable
  · rw [foldAscii_of_isLowerCase hseg, String.ofList_toList]
    refine ⟨rfl, rfl, fun hmatch => ?_⟩
    rw [foldAscii_of_isLowerCase htable.1] at hmatch
    apply (bestScore_eq_one_iff _ _).mpr
    rw [foldRange_of_isLowerCase hseg, hmatch, String.ofList_toList]
    exact mem_variants.mpr (.inl rfl)
  · exact argmaxName_perm hperm (segmentScore_nonneg name)
  · exact argmaxName_perm hperm (toolScore_nonneg name)
  · exact argmaxName_best hne (segmentScore_nonneg name)
  · exact argmaxName_best hne (toolScore_nonneg name)

/-- The witness: a tool, a segment and two tables in lower case. -/
theorem tableScoring_normative_contacts :
    tableScoreAction "contact" "contacts" = Normative.tableScore "contact" "contacts" ∧
      ((∀ table, IsPlainTable table → tableScoreAction "contact" table =
        Normative.tableScore "contact" table) ↔ IsLowerCase "contact".toList) ∧
      scoreSegmentToTable "contacts" "contacts" = 1 ∧
      argmaxTableSegment "contact" ["contacts", "accounts"] =
        argmaxTableSegment "contact" ["accounts", "contacts"] := by
  have hplain : IsPlainTable "contacts" := ⟨by decide, by decide, by decide⟩
  obtain ⟨htool, -, hone, -, hmatch, hbest⟩ := tableScoring_normative "contact" "contacts"
    "contacts" "contact" ["contacts", "accounts"] ["accounts", "contacts"]
  refine ⟨htool (by decide) hplain, hone (by decide) (List.all_eq_true.mp (by decide)),
    (hmatch (by decide) hplain).2.2 rfl, ?_⟩
  exact (hbest (List.Perm.swap _ _ _) (by decide)).1

/-- The segment `Contacts` does not score 1 for the table `contacts`, nor the tool
`Contacts`. -/
theorem upperCase_not_folded :
    ¬((∀ toolName seg0 table : String,
        tableScoreAction toolName table = Normative.tableScore toolName table ∧
          scoreSegmentToTable seg0 table = Normative.segmentTableScore seg0 table) ∨
      ∀ seg0 table : String,
        Normative.foldAscii seg0.toList = Normative.foldAscii table.toList →
          scoreSegmentToTable seg0 table = 1) := by
  have hscore : scoreSegmentToTable "Contacts" "contacts" ≠ 1 := by decide +kernel
  have hspec : Normative.segmentTableScore "Contacts" "contacts" = 1 := by decide +kernel
  rintro (h | h)
  · exact hscore (((h "" "Contacts" "contacts").2).trans hspec)
  · exact hscore (h "Contacts" "contacts" (by decide))

end AgentSkeptic.Quick

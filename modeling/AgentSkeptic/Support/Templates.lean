import AgentSkeptic.Support.Separated
import Mathlib.Data.List.Infix
import Mathlib.Data.List.Nodup

/-!
# Filling templates

A rule puts a value in the place of a pattern.  Rules are applied all at once, when the
text is read once and what a rule puts in is not read again, or one after another, when a
later rule also finds its pattern in what the earlier ones put in.  Where the patterns are
delimited names and the text is a template over them, the second is the first with values
that the later rules have rewritten: `rewriteEach_eq`.
-/

namespace AgentSkeptic.Support

universe u

/-- A pattern and what takes its place. -/
structure Rule (α : Type u) where
  pattern : List α
  value : List α

section Rewriting

variable {α : Type u} [DecidableEq α]

/-- The rule whose pattern the text starts with. -/
def ruleAt (rules : List (Rule α)) (text : List α) : Option (Rule α) :=
  rules.find? fun r => r.pattern <+: text

/-- The text after `skip` more elements, which belong to an occurrence. -/
def rewriteFrom (rules : List (Rule α)) : ℕ → List α → List α
  | _, [] => []
  | skip + 1, _ :: text => rewriteFrom rules skip text
  | 0, x :: text =>
      match ruleAt rules (x :: text) with
      | some r => r.value ++ rewriteFrom rules (r.pattern.length - 1) text
      | none => x :: rewriteFrom rules 0 text

/-- All rules at once. -/
def rewrite (rules : List (Rule α)) (text : List α) : List α := rewriteFrom rules 0 text

/-- One rule after another. -/
def rewriteEach (rules : List (Rule α)) (text : List α) : List α :=
  rules.foldl (fun out r => rewrite [r] out) text

/-! ## Reading a text -/

@[simp] theorem rewrite_nil (rules : List (Rule α)) : rewrite rules [] = [] := rfl

theorem rewriteFrom_eq (rules : List (Rule α)) (skip : ℕ) (text : List α) :
    rewriteFrom rules skip text = rewrite rules (text.drop skip) := by
  induction skip generalizing text with
  | zero => rfl
  | succ skip ih =>
      cases text with
      | nil => rfl
      | cons x text => exact ih text

theorem rewrite_cons {rules : List (Rule α)} {x : α} {text : List α}
    (h : ruleAt rules (x :: text) = none) :
    rewrite rules (x :: text) = x :: rewrite rules text := by
  simp only [rewrite, rewriteFrom, h]

theorem rewrite_occurrence {rules : List (Rule α)} {r : Rule α} {text : List α}
    (hpattern : r.pattern ≠ []) (h : ruleAt rules (r.pattern ++ text) = some r) :
    rewrite rules (r.pattern ++ text) = r.value ++ rewrite rules text := by
  obtain ⟨x, rest, hr⟩ := List.exists_cons_of_ne_nil hpattern
  rw [hr, List.cons_append] at h
  rw [hr, List.cons_append, rewrite, rewriteFrom, h]
  dsimp only
  rw [rewriteFrom_eq, hr, List.length_cons, Nat.add_sub_cancel, List.drop_left]

theorem rewrite_none (text : List α) : rewrite [] text = text := by
  induction text with
  | nil => rfl
  | cons x text ih => rw [rewrite_cons rfl, ih]

theorem ruleAt_eq_none {rules : List (Rule α)} {text : List α} :
    ruleAt rules text = none ↔ ∀ r ∈ rules, ¬ r.pattern <+: text := by
  simp [ruleAt]

/-! ## One rule -/

theorem ruleAt_single {r : Rule α} {text : List α} (h : r.pattern <+: text) :
    ruleAt [r] text = some r := by
  simp [ruleAt, h]

theorem ruleAt_single_none {r : Rule α} {text : List α} (h : ¬ r.pattern <+: text) :
    ruleAt [r] text = none := by
  simp [ruleAt, h]

/-- A text as one rule reads it. -/
theorem reading_induction {r : Rule α} (hpattern : r.pattern ≠ []) {motive : List α → Prop}
    (nil : motive [])
    (occurrence : ∀ text, motive text → motive (r.pattern ++ text))
    (other : ∀ x text, ¬ r.pattern <+: x :: text → motive text → motive (x :: text))
    (text : List α) : motive text := by
  induction hn : text.length using Nat.strong_induction_on generalizing text with
  | _ n ih =>
      cases text with
      | nil => exact nil
      | cons x text =>
          by_cases hhere : r.pattern <+: x :: text
          · obtain ⟨rest, hrest⟩ := hhere
            have hlength := congrArg List.length hrest
            rw [List.length_append, hn] at hlength
            have hpositive := List.length_pos_iff.mpr hpattern
            rw [← hrest]
            exact occurrence rest (ih _ (by omega) rest rfl)
          · have hlength : text.length < n := by
              rw [← hn]
              exact Nat.lt_succ_self _
            exact other x text hhere (ih _ hlength text rfl)

theorem rewrite_single_occurrence {r : Rule α} (hpattern : r.pattern ≠ []) (text : List α) :
    rewrite [r] (r.pattern ++ text) = r.value ++ rewrite [r] text :=
  rewrite_occurrence hpattern (ruleAt_single (List.prefix_append _ _))

/-- A text without the pattern stays as it is. -/
theorem rewrite_eq_self {r : Rule α} {text : List α} (h : ¬ r.pattern <:+: text) :
    rewrite [r] text = text := by
  induction text with
  | nil => rfl
  | cons x text ih =>
      have hhere : ¬ r.pattern <+: x :: text := fun hp => h hp.isInfix
      have hthere : ¬ r.pattern <:+: text := fun hp => h (List.infix_cons hp)
      rw [rewrite_cons (ruleAt_single_none hhere), ih hthere]

/-- A rule that puts its pattern in changes nothing. -/
theorem rewrite_pattern {r : Rule α} (hpattern : r.pattern ≠ []) (hvalue : r.value = r.pattern)
    (text : List α) : rewrite [r] text = text := by
  induction text using reading_induction hpattern with
  | nil => rfl
  | occurrence text ih => rw [rewrite_single_occurrence hpattern, ih, hvalue]
  | other x text hhere ih => rw [rewrite_cons (ruleAt_single_none hhere), ih]

/-- Each occurrence changes the length alike. -/
theorem length_rewrite {r : Rule α} (hpattern : r.pattern ≠ []) (text : List α) :
    ∃ n, (rewrite [r] text).length + n * r.pattern.length =
        text.length + n * r.value.length ∧ (r.pattern <:+: text → 0 < n) := by
  induction text using reading_induction hpattern with
  | nil => exact ⟨0, by simp, fun h => absurd (List.infix_nil.mp h) hpattern⟩
  | occurrence text ih =>
      obtain ⟨n, hn, -⟩ := ih
      refine ⟨n + 1, ?_, fun _ => n.succ_pos⟩
      rw [rewrite_single_occurrence hpattern, List.length_append, List.length_append,
        Nat.add_mul, Nat.add_mul]
      omega
  | other x text hhere ih =>
      obtain ⟨n, hn, hpositive⟩ := ih
      refine ⟨n, ?_, fun h => ?_⟩
      · rw [rewrite_cons (ruleAt_single_none hhere), List.length_cons, List.length_cons]
        omega
      · rcases List.infix_cons_iff.mp h with hstarts | hwithin
        · exact absurd hstarts hhere
        · exact hpositive hwithin

/-- A rule leaves a text alone that does not have its pattern, and every text if it puts
its pattern in. -/
theorem rewrite_eq_self_iff {r : Rule α} (hpattern : r.pattern ≠ []) {text : List α} :
    rewrite [r] text = text ↔ ¬ r.pattern <:+: text ∨ r.value = r.pattern := by
  constructor
  · intro h
    by_cases hoccurs : r.pattern <:+: text
    · right
      obtain ⟨n, hn, hpositive⟩ := length_rewrite hpattern text
      rw [h] at hn
      have hlength : r.pattern.length = r.value.length :=
        Nat.eq_of_mul_eq_mul_left (hpositive hoccurs) (by omega)
      clear hn hpositive
      induction text using reading_induction hpattern with
      | nil => exact absurd (List.infix_nil.mp hoccurs) hpattern
      | occurrence text ih =>
          rw [rewrite_single_occurrence hpattern] at h
          exact (List.append_inj h hlength.symm).1
      | other x text hhere ih =>
          rw [rewrite_cons (ruleAt_single_none hhere)] at h
          rcases List.infix_cons_iff.mp hoccurs with hstarts | hwithin
          · exact absurd hstarts hhere
          · exact ih (List.cons.inj h).2 hwithin
    · exact .inl hoccurs
  · rintro (h | h)
    · exact rewrite_eq_self h
    · exact rewrite_pattern hpattern h text

/-- No occurrence of the pattern starts before the text and ends in it. -/
def NoneEndsIn (pattern text : List α) : Prop :=
  ∀ before rest, pattern = before ++ rest → before ≠ [] → rest ≠ [] → ¬ rest <+: text

/-- A text may be cut where no occurrence of the pattern crosses the cut. -/
theorem rewrite_append {r : Rule α} (hpattern : r.pattern ≠ []) {text : List α}
    (htext : NoneEndsIn r.pattern text) (front : List α) :
    rewrite [r] (front ++ text) = rewrite [r] front ++ rewrite [r] text := by
  induction front using reading_induction hpattern with
  | nil => rfl
  | occurrence front ih =>
      rw [List.append_assoc, rewrite_single_occurrence hpattern,
        rewrite_single_occurrence hpattern, ih, List.append_assoc]
  | other x front hhere ih =>
      have hwhole : ¬ r.pattern <+: (x :: front) ++ text := by
        rintro ⟨rest, hrest⟩
        rcases List.append_eq_append_iff.mp hrest with ⟨c, hc, -⟩ | ⟨c, hc, hrest⟩
        · exact hhere ⟨c, hc.symm⟩
        · rcases eq_or_ne c [] with rfl | hne
          · exact hhere ⟨[], by rw [hc, List.append_nil, List.append_nil]⟩
          · exact htext _ c hc (List.cons_ne_nil _ _) hne ⟨rest, hrest.symm⟩
      rw [List.cons_append] at hwhole ⊢
      rw [rewrite_cons (ruleAt_single_none hwhole),
        rewrite_cons (ruleAt_single_none hhere), ih, List.cons_append]

end Rewriting

/-! ## Placeholder names -/

section Placeholder

variable {α : Type u} {opening closing : α}

/-- A name between delimiters, which are not in it. -/
structure Placeholder (opening closing : α) (pattern : List α) : Prop where
  ne : opening ≠ closing
  spec : ∃ name, pattern = opening :: (name ++ [closing]) ∧ opening ∉ name ∧ closing ∉ name

namespace Placeholder

variable {pattern : List α} (h : Placeholder opening closing pattern)
include h

theorem ne_nil : pattern ≠ [] := by
  obtain ⟨name, rfl, -, -⟩ := h.spec
  exact List.cons_ne_nil _ _

theorem head_eq {x : α} {text : List α} (hstarts : pattern <+: x :: text) : x = opening := by
  obtain ⟨name, rfl, -, -⟩ := h.spec
  exact (List.cons_prefix_cons.mp hstarts).1.symm

theorem opening_notMem {before rest : List α} (hcut : pattern = before ++ rest)
    (hbefore : before ≠ []) : opening ∉ rest := by
  obtain ⟨name, rfl, hopening, -⟩ := h.spec
  obtain ⟨x, before, rfl⟩ := List.exists_cons_of_ne_nil hbefore
  obtain ⟨-, hrest⟩ := List.cons.inj hcut
  intro hmem
  have hname : opening ∈ name ++ [closing] := by
    rw [hrest]
    exact List.mem_append_right _ hmem
  rcases List.mem_append.mp hname with hname | hclosing
  · exact hopening hname
  · exact h.ne (List.mem_singleton.mp hclosing)

theorem eq_of_startsWith {other rest : List α} (hother : Placeholder opening closing other)
    (hstarts : pattern <+: other ++ rest) : pattern = other := by
  obtain ⟨name, rfl, -, hname⟩ := h.spec
  obtain ⟨name', rfl, -, hname'⟩ := hother.spec
  obtain ⟨tail, htail⟩ := hstarts
  have hcut : name ++ closing :: tail = name' ++ closing :: rest := by
    have hcons := (List.cons.inj htail).2
    simpa using hcons
  rw [(cut_unique hname hname' hcut).1]

theorem eq_or_within {other text : List α} (hother : Placeholder opening closing other)
    (hwithin : pattern <:+: other ++ text) : pattern = other ∨ pattern <:+: text := by
  obtain ⟨before, after, hcut⟩ := hwithin
  rw [List.append_assoc] at hcut
  rcases List.append_eq_append_iff.mp hcut with ⟨c, rfl, hrest⟩ | ⟨c, rfl, htext⟩
  · rcases eq_or_ne before [] with rfl | hbefore
    · exact .inl (h.eq_of_startsWith hother ⟨after, hcut⟩)
    · rcases eq_or_ne c [] with rfl | hc
      · exact .inr ⟨[], after, hrest⟩
      · obtain ⟨x, c, rfl⟩ := List.exists_cons_of_ne_nil hc
        obtain ⟨name, rfl, -⟩ := h.spec
        obtain ⟨rfl, -⟩ := List.cons.inj hrest
        exact absurd List.mem_cons_self (hother.opening_notMem rfl hbefore)
  · exact .inr ⟨c, after, by rw [List.append_assoc]; exact htext.symm⟩

end Placeholder

end Placeholder

/-! ## Templates -/

section Template

variable {α : Type u} [DecidableEq α] {opening closing : α} {patterns : List (List α)}

/-- After a pattern the text ends, or goes on with an element that no pattern has, or with
the last of the patterns. -/
def Parted (patterns : List (List α)) (text : List α) : Prop :=
  (∀ x ∈ text.head?, ∀ p ∈ patterns, x ∉ p) ∨ ∃ last ∈ patterns.getLast?, last <+: text

/-- A text in which the opening delimiter starts one of the patterns. -/
inductive IsTemplate (opening : α) (patterns : List (List α)) : List α → Prop
  | nil : IsTemplate opening patterns []
  | plain {x text} (hx : x ≠ opening) (h : IsTemplate opening patterns text) :
      IsTemplate opening patterns (x :: text)
  | hole {pattern text} (hpattern : pattern ∈ patterns) (hnext : Parted patterns text)
      (h : IsTemplate opening patterns text) : IsTemplate opening patterns (pattern ++ text)

instance (patterns : List (List α)) (text : List α) : Decidable (Parted patterns text) := by
  unfold Parted
  infer_instance

/-- `IsTemplate` as it is computed, after `skip` more elements of a pattern. -/
def templateFrom (opening : α) (patterns : List (List α)) : ℕ → List α → Bool
  | _, [] => true
  | skip + 1, _ :: text => templateFrom opening patterns skip text
  | 0, x :: text =>
      match patterns.find? (· <+: x :: text) with
      | some pattern =>
          Parted patterns (text.drop (pattern.length - 1)) &&
            templateFrom opening patterns (pattern.length - 1) text
      | none => x ≠ opening && templateFrom opening patterns 0 text

theorem templateFrom_drop {skip : ℕ} {text : List α}
    (h : templateFrom opening patterns skip text = true) :
    templateFrom opening patterns 0 (text.drop skip) = true := by
  induction skip generalizing text with
  | zero => exact h
  | succ skip ih =>
      cases text with
      | nil => rfl
      | cons x text => exact ih h

theorem isTemplate_of_templateFrom (hne : ∀ p ∈ patterns, p ≠ []) {text : List α}
    (h : templateFrom opening patterns 0 text = true) : IsTemplate opening patterns text := by
  induction hn : text.length using Nat.strong_induction_on generalizing text with
  | _ n ih =>
      cases text with
      | nil => exact .nil
      | cons x text =>
          rw [List.length_cons] at hn
          rw [templateFrom] at h
          cases hfound : patterns.find? (· <+: x :: text) with
          | none =>
              rw [hfound] at h
              obtain ⟨hx, hrest⟩ := (Bool.and_eq_true _ _).mp h
              exact .plain (of_decide_eq_true hx) (ih _ (by omega) hrest rfl)
          | some pattern =>
              rw [hfound] at h
              obtain ⟨hnext, hrest⟩ := (Bool.and_eq_true _ _).mp h
              have hmem := List.mem_of_find?_eq_some hfound
              obtain ⟨y, rest, rfl⟩ := List.exists_cons_of_ne_nil (hne pattern hmem)
              have hstarts : y :: rest <+: x :: text := by
                simpa using List.find?_some hfound
              obtain ⟨tail, htail⟩ := hstarts
              rw [List.cons_append] at htail
              obtain ⟨rfl, rfl⟩ := List.cons.inj htail
              have hdrop := templateFrom_drop hrest
              rw [List.length_cons, Nat.add_sub_cancel, List.drop_left] at hdrop
              have hparted := of_decide_eq_true hnext
              rw [List.length_cons, Nat.add_sub_cancel, List.drop_left] at hparted
              rw [List.length_append] at hn
              exact .hole hmem hparted (ih _ (by omega) hdrop rfl)

/-- What `r` makes of the value of another rule. -/
def Rule.refill (r d : Rule α) : Rule α := { d with value := rewrite [r] d.value }

theorem map_pattern_refill (r : Rule α) (rules : List (Rule α)) :
    (rules.map r.refill).map Rule.pattern = rules.map Rule.pattern := by
  rw [List.map_map]
  rfl

section Holes

variable {rules : List (Rule α)}
  (hrules : ∀ r ∈ rules, Placeholder opening closing r.pattern)
include hrules

theorem rewrite_plain {x : α} (hx : x ≠ opening) (text : List α) :
    rewrite rules (x :: text) = x :: rewrite rules text := by
  apply rewrite_cons
  rw [ruleAt_eq_none]
  intro r hr hstarts
  exact hx ((hrules r hr).head_eq hstarts)

theorem rewrite_plains {front : List α} (hfront : opening ∉ front) (text : List α) :
    rewrite rules (front ++ text) = front ++ rewrite rules text := by
  induction front with
  | nil => rfl
  | cons x front ih =>
      obtain ⟨hx, hfront⟩ := not_or.mp (mt List.mem_cons.mpr hfront)
      rw [List.cons_append, rewrite_plain hrules (Ne.symm hx), ih hfront, List.cons_append]

/-- A hole without a rule is passed over. -/
theorem rewrite_unfilled {pattern : List α} (hpattern : Placeholder opening closing pattern)
    (hnone : pattern ∉ rules.map Rule.pattern) (text : List α) :
    rewrite rules (pattern ++ text) = pattern ++ rewrite rules text := by
  have hruleAt : ruleAt rules (pattern ++ text) = none := by
    rw [ruleAt_eq_none]
    intro r hr hstarts
    have heq := (hrules r hr).eq_of_startsWith hpattern hstarts
    exact hnone (heq ▸ List.mem_map_of_mem hr)
  obtain ⟨x, rest, rfl⟩ := List.exists_cons_of_ne_nil hpattern.ne_nil
  have hcut : x :: rest = [x] ++ rest := rfl
  have hrest : opening ∉ rest := hpattern.opening_notMem hcut (List.cons_ne_nil _ _)
  rw [List.cons_append] at hruleAt ⊢
  rw [rewrite_cons hruleAt, rewrite_plains hrules hrest, List.cons_append]

theorem rewrite_hole (hnodup : (rules.map Rule.pattern).Nodup) {r : Rule α} (hr : r ∈ rules)
    (text : List α) : rewrite rules (r.pattern ++ text) = r.value ++ rewrite rules text := by
  apply rewrite_occurrence (hrules r hr).ne_nil
  obtain ⟨s, hs⟩ : ∃ s, ruleAt rules (r.pattern ++ text) = some s := by
    rw [← Option.isSome_iff_exists, ruleAt, List.find?_isSome]
    exact ⟨r, hr, decide_eq_true (List.prefix_append _ _)⟩
  have hmem : s ∈ rules := List.mem_of_find?_eq_some hs
  have hstarts : s.pattern <+: r.pattern ++ text := by
    simpa using List.find?_some hs
  have heq := (hrules s hmem).eq_of_startsWith (hrules r hr) hstarts
  rw [hs, List.inj_on_of_nodup_map hnodup hmem hr heq]

end Holes

/-- What follows a filled hole does not end an occurrence of a later pattern. -/
theorem Parted.noneEndsIn {done later : List (Rule α)} {r : Rule α}
    (hholes : ∀ p ∈ patterns, Placeholder opening closing p) (hnodup : patterns.Nodup)
    (hpatterns : (done ++ r :: later).map Rule.pattern = patterns) {text : List α}
    (htext : Parted patterns text) : NoneEndsIn r.pattern (rewrite done text) := by
  subst hpatterns
  rw [List.map_append, List.map_cons] at hnodup
  have hdone : ∀ d ∈ done, Placeholder opening closing d.pattern := by
    intro d hd
    exact hholes _ (List.mem_map_of_mem (List.mem_append_left _ hd))
  have hmem : r.pattern ∈ (done ++ r :: later).map Rule.pattern :=
    List.mem_map_of_mem (List.mem_append_right _ List.mem_cons_self)
  have hr : Placeholder opening closing r.pattern := hholes _ hmem
  intro before rest hcut hbefore hrest hstarts
  obtain ⟨x, rest, rfl⟩ := List.exists_cons_of_ne_nil hrest
  have hopening : x ≠ opening := by
    rintro rfl
    exact hr.opening_notMem hcut hbefore List.mem_cons_self
  rcases htext with hnext | ⟨last, hlast, tail, rfl⟩
  · cases text with
    | nil => exact List.cons_ne_nil _ _ (List.prefix_nil.mp hstarts)
    | cons y text =>
        have hy : y ≠ opening := by
          rintro rfl
          obtain ⟨name, hname, -⟩ := hr.spec
          refine hnext y rfl r.pattern hmem ?_
          rw [hname]
          exact List.mem_cons_self
        rw [rewrite_plain hdone hy] at hstarts
        obtain ⟨rfl, -⟩ := List.cons_prefix_cons.mp hstarts
        refine hnext x rfl r.pattern hmem ?_
        rw [hcut]
        exact List.mem_append_right _ List.mem_cons_self
  · have hlater : last ∈ (r :: later).map Rule.pattern := by
      rw [List.map_append, List.getLast?_append_of_ne_nil _ (by simp)] at hlast
      exact List.mem_of_getLast? hlast
    have hdone' : last ∉ done.map Rule.pattern := by
      intro hearlier
      exact (List.nodup_append.mp hnodup).2.2 _ hearlier _ hlater rfl
    have hdelim : Placeholder opening closing last := by
      apply hholes
      rw [List.map_append]
      exact List.mem_append_right _ hlater
    rw [rewrite_unfilled hdone hdelim hdone'] at hstarts
    obtain ⟨name, rfl, -⟩ := hdelim.spec
    exact hopening (List.cons_prefix_cons.mp hstarts).1

section Filling

variable (hholes : ∀ p ∈ patterns, Placeholder opening closing p) (hnodup : patterns.Nodup)
include hholes hnodup

/-- One more rule after the others: what they put in is read again. -/
theorem rewrite_rewrite {done later : List (Rule α)} {r : Rule α}
    (hpatterns : (done ++ r :: later).map Rule.pattern = patterns) {text : List α}
    (htext : IsTemplate opening patterns text) :
    rewrite [r] (rewrite done text) = rewrite (done.map r.refill ++ [r]) text := by
  have hall : ∀ d ∈ done ++ r :: later, Placeholder opening closing d.pattern := by
    intro d hd
    exact hholes _ (hpatterns ▸ List.mem_map_of_mem hd)
  have hdone : ∀ d ∈ done, Placeholder opening closing d.pattern := fun d hd =>
    hall d (List.mem_append_left _ hd)
  have hr : Placeholder opening closing r.pattern :=
    hall r (List.mem_append_right _ List.mem_cons_self)
  have hone : ∀ d ∈ [r], Placeholder opening closing d.pattern := by
    simpa using hr
  have hrefilled : ∀ d ∈ done.map r.refill ++ [r], Placeholder opening closing d.pattern := by
    intro d hd
    rcases List.mem_append.mp hd with hd | hd
    · obtain ⟨e, he, rfl⟩ := List.mem_map.mp hd
      exact hdone e he
    · exact hone d hd
  have hdistinct : (done.map Rule.pattern ++ [r.pattern]).Nodup := by
    rw [← hpatterns, List.map_append, List.map_cons] at hnodup
    refine hnodup.sublist (List.Sublist.append_left ?_ _)
    exact List.singleton_sublist.mpr List.mem_cons_self
  have hdistinct' : ((done.map r.refill ++ [r]).map Rule.pattern).Nodup := by
    rwa [List.map_append, map_pattern_refill]
  induction htext with
  | nil => rfl
  | plain hx _ ih =>
      rw [rewrite_plain hdone hx, rewrite_plain hone hx, rewrite_plain hrefilled hx, ih]
  | @hole pattern text hpattern hnext _ ih =>
      by_cases hfilled : pattern ∈ done.map Rule.pattern
      · obtain ⟨d, hd, rfl⟩ := List.mem_map.mp hfilled
        have hmem : r.refill d ∈ done.map r.refill ++ [r] :=
          List.mem_append_left _ (List.mem_map_of_mem hd)
        have hhole : rewrite (done.map r.refill ++ [r]) (d.pattern ++ text) =
            rewrite [r] d.value ++ rewrite (done.map r.refill ++ [r]) text :=
          rewrite_hole hrefilled hdistinct' hmem text
        rw [rewrite_hole hdone (List.nodup_append.mp hdistinct).1 hd, hhole, ← ih]
        exact rewrite_append hr.ne_nil (hnext.noneEndsIn hholes hnodup hpatterns) _
      · have hplaceholder := hholes pattern hpattern
        rw [rewrite_unfilled hdone hplaceholder hfilled]
        by_cases hthis : pattern = r.pattern
        · subst hthis
          rw [rewrite_single_occurrence hr.ne_nil, ih,
            rewrite_hole hrefilled hdistinct' (List.mem_append_right _ List.mem_cons_self)]
        · have hnone : pattern ∉ [r].map Rule.pattern := by
            simpa using hthis
          have hnone' : pattern ∉ (done.map r.refill ++ [r]).map Rule.pattern := by
            rw [List.map_append, map_pattern_refill]
            exact fun h => (List.mem_append.mp h).elim hfilled hnone
          rw [rewrite_unfilled hone hplaceholder hnone, ih,
            rewrite_unfilled hrefilled hplaceholder hnone']

end Filling

/-- `done` with what the rules make of the values, and the rules after it. -/
def refillFrom (done rules : List (Rule α)) : List (Rule α) :=
  rules.foldl (fun done r => done.map r.refill ++ [r]) done

/-- The rules with what the later ones make of their values. -/
def refilled (rules : List (Rule α)) : List (Rule α) := refillFrom [] rules

/-- No rule changes the value of an earlier one. -/
def Inert (rules : List (Rule α)) : Prop :=
  rules.Pairwise fun earlier later =>
    ¬ later.pattern <:+: earlier.value ∨ later.value = later.pattern

instance (rules : List (Rule α)) : Decidable (Inert rules) := by
  unfold Inert
  infer_instance

theorem refillFrom_eq {done rules : List (Rule α)} (hrules : Inert rules)
    (hne : ∀ r ∈ rules, r.pattern ≠ [])
    (hdone : ∀ d ∈ done, ∀ r ∈ rules, ¬ r.pattern <:+: d.value ∨ r.value = r.pattern) :
    refillFrom done rules = done ++ rules := by
  induction rules generalizing done with
  | nil => exact (List.append_nil _).symm
  | cons r rules ih =>
      obtain ⟨hr, hrules⟩ := List.pairwise_cons.mp hrules
      have hsame : done.map r.refill = done := by
        refine (List.map_congr_left fun d hd => ?_).trans (List.map_id _)
        have hvalue := (rewrite_eq_self_iff (hne r List.mem_cons_self)).mpr
          (hdone d hd r List.mem_cons_self)
        rw [Rule.refill, hvalue, id_eq]
      have hnext : ∀ d ∈ done ++ [r], ∀ s ∈ rules,
          ¬ s.pattern <:+: d.value ∨ s.value = s.pattern := by
        intro d hd s hs
        rcases List.mem_append.mp hd with hd | hd
        · exact hdone d hd s (List.mem_cons_of_mem _ hs)
        · rw [List.mem_singleton.mp hd]
          exact hr s hs
      rw [refillFrom, List.foldl_cons, hsame]
      refine (ih hrules (fun s hs => hne s (List.mem_cons_of_mem _ hs)) hnext).trans ?_
      rw [List.append_assoc, List.singleton_append]

theorem refilled_eq {rules : List (Rule α)} (hrules : Inert rules)
    (hne : ∀ r ∈ rules, r.pattern ≠ []) : refilled rules = rules :=
  refillFrom_eq hrules hne (by simp)

section Filling

variable (hholes : ∀ p ∈ patterns, Placeholder opening closing p) (hnodup : patterns.Nodup)
include hholes hnodup

theorem foldl_rewrite {done rules : List (Rule α)}
    (hpatterns : (done ++ rules).map Rule.pattern = patterns) {text : List α}
    (htext : IsTemplate opening patterns text) :
    rules.foldl (fun out r => rewrite [r] out) (rewrite done text) =
      rewrite (refillFrom done rules) text := by
  induction rules generalizing done with
  | nil => rfl
  | cons r rules ih =>
      have hnext : ((done.map r.refill ++ [r]) ++ rules).map Rule.pattern = patterns := by
        rw [← hpatterns, List.map_append, List.map_append, map_pattern_refill,
          List.map_append, List.append_assoc]
        rfl
      rw [List.foldl_cons, rewrite_rewrite hholes hnodup hpatterns htext, ih hnext]
      rfl

/-- Filling a template one rule after another is filling it at once with the values that
the later rules have rewritten. -/
theorem rewriteEach_eq {rules : List (Rule α)} (hpatterns : rules.map Rule.pattern = patterns)
    {text : List α} (htext : IsTemplate opening patterns text) :
    rewriteEach rules text = rewrite (refilled rules) text := by
  have hall : (([] : List (Rule α)) ++ rules).map Rule.pattern = patterns := hpatterns
  have hfold := foldl_rewrite hholes hnodup hall htext
  rwa [rewrite_none] at hfold

theorem rewriteEach_inert {rules : List (Rule α)}
    (hpatterns : rules.map Rule.pattern = patterns)
    {text : List α} (htext : IsTemplate opening patterns text) (hrules : Inert rules) :
    rewriteEach rules text = rewrite rules text := by
  have hne : ∀ r ∈ rules, r.pattern ≠ [] := by
    intro r hr
    exact (hholes _ (hpatterns ▸ List.mem_map_of_mem hr)).ne_nil
  rw [rewriteEach_eq hholes hnodup hpatterns htext, refilled_eq hrules hne]

end Filling

/-! ## Two rules -/

section Two

variable {p q : List α} (hp : Placeholder opening closing p)
  (hq : Placeholder opening closing q)
  (hpq : p ≠ q)
include hp hq hpq

theorem rewrite_first (v w text : List α) :
    rewrite [⟨p, v⟩, ⟨q, w⟩] (p ++ text) = v ++ rewrite [⟨p, v⟩, ⟨q, w⟩] text :=
  rewrite_hole (r := ⟨p, v⟩) (by simpa using ⟨hp, hq⟩) (by simpa using hpq)
    List.mem_cons_self text

theorem rewrite_second (v w text : List α) :
    rewrite [⟨p, v⟩, ⟨q, w⟩] (q ++ text) = w ++ rewrite [⟨p, v⟩, ⟨q, w⟩] text :=
  rewrite_hole (r := ⟨q, w⟩) (by simpa using ⟨hp, hq⟩) (by simpa using hpq)
    (List.mem_cons_of_mem _ List.mem_cons_self) text

/-- The length is affine in the length of the first value. -/
theorem length_rewrite_two {text : List α} (htext : IsTemplate opening [p, q] text)
    (w : List α) : ∃ m k, (p <:+: text → 0 < m) ∧
      ∀ v, (rewrite [⟨p, v⟩, ⟨q, w⟩] text).length = m * v.length + k := by
  have hrules (v : List α) :
      ∀ r ∈ [(⟨p, v⟩ : Rule α), ⟨q, w⟩], Placeholder opening closing r.pattern := by
    simpa using ⟨hp, hq⟩
  induction htext with
  | nil => exact ⟨0, 0, fun h => absurd (List.infix_nil.mp h) hp.ne_nil, by simp⟩
  | @plain x text hx _ ih =>
      obtain ⟨m, k, hm, hlength⟩ := ih
      refine ⟨m, k + 1, fun h => hm ?_, fun v => ?_⟩
      · rcases List.infix_cons_iff.mp h with hstarts | hwithin
        · exact absurd (hp.head_eq hstarts) hx
        · exact hwithin
      · rw [rewrite_plain (hrules v) hx, List.length_cons, hlength, Nat.add_assoc]
  | @hole pattern text hpattern _ _ ih =>
      obtain ⟨m, k, hm, hlength⟩ := ih
      simp only [List.mem_cons, List.not_mem_nil, or_false] at hpattern
      rcases hpattern with rfl | rfl
      · refine ⟨m + 1, k, fun _ => m.succ_pos, fun v => ?_⟩
        rw [rewrite_first hp hq hpq, List.length_append, hlength, Nat.add_mul]
        omega
      · refine ⟨m, k + w.length, fun h => hm ?_, fun v => ?_⟩
        · exact (hp.eq_or_within hq h).resolve_left hpq
        · rw [rewrite_second hp hq hpq, List.length_append, hlength]
          omega

/-- Values of different texts fill a hole differently. -/
theorem rewrite_two_injective {text : List α} (htext : IsTemplate opening [p, q] text)
    (hhole : p <:+: text) {v v' w : List α}
    (h : rewrite [⟨p, v⟩, ⟨q, w⟩] text = rewrite [⟨p, v'⟩, ⟨q, w⟩] text) : v = v' := by
  have hlength : v.length = v'.length := by
    obtain ⟨m, k, hm, hlength⟩ := length_rewrite_two hp hq hpq htext w
    have htexts := congrArg List.length h
    rw [hlength, hlength] at htexts
    exact Nat.eq_of_mul_eq_mul_left (hm hhole) (by omega)
  have hrules (v : List α) :
      ∀ r ∈ [(⟨p, v⟩ : Rule α), ⟨q, w⟩], Placeholder opening closing r.pattern := by
    simpa using ⟨hp, hq⟩
  induction htext with
  | nil => exact absurd (List.infix_nil.mp hhole) hp.ne_nil
  | @plain x text hx _ ih =>
      rw [rewrite_plain (hrules v) hx, rewrite_plain (hrules v') hx] at h
      rcases List.infix_cons_iff.mp hhole with hstarts | hwithin
      · exact absurd (hp.head_eq hstarts) hx
      · exact ih hwithin (List.cons.inj h).2
  | @hole pattern text hpattern _ _ ih =>
      simp only [List.mem_cons, List.not_mem_nil, or_false] at hpattern
      rcases hpattern with rfl | rfl
      · rw [rewrite_first hp hq hpq, rewrite_first hp hq hpq] at h
        exact (List.append_inj h hlength).1
      · rw [rewrite_second hp hq hpq, rewrite_second hp hq hpq] at h
        have hwithin := (hp.eq_or_within hq hhole).resolve_left hpq
        exact ih hwithin (List.append_cancel_left h)

/-- With two rules, of which the first has a hole, nothing else is filled alike. -/
theorem rewriteEach_two_iff {text : List α} (htext : IsTemplate opening [p, q] text)
    (hhole : p <:+: text) (v w : List α) :
    rewriteEach [⟨p, v⟩, ⟨q, w⟩] text = rewrite [⟨p, v⟩, ⟨q, w⟩] text ↔
      Inert [⟨p, v⟩, ⟨q, w⟩] := by
  have hholes : ∀ pattern ∈ [p, q], Placeholder opening closing pattern := by
    simpa using ⟨hp, hq⟩
  have hnodup : [p, q].Nodup := by simpa using hpq
  constructor
  · intro h
    rw [rewriteEach_eq hholes hnodup rfl htext] at h
    have hvalue : rewrite [⟨q, w⟩] v = v := rewrite_two_injective hp hq hpq htext hhole h
    have hinert := (rewrite_eq_self_iff hq.ne_nil).mp hvalue
    simpa [Inert] using hinert
  · exact rewriteEach_inert hholes hnodup rfl htext

end Two

end Template

end AgentSkeptic.Support

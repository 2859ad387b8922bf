import Mathlib.Data.List.Basic
import Mathlib.Tactic.Common

/-!
# Regular expressions

The backtracking matcher of ECMAScript over any alphabet: an expression is read from a
cursor and gives the cursors at which it can end, the preferred one first.  A match is the
first of them, and a search tries each place of a text in order.

An iteration of a loop that reads nothing is dropped, as the standard has it, so that a
loop is over after as many iterations as there is text left.  A group keeps what it last
read.  A loop does not clear the groups under it.
-/

namespace AgentSkeptic.Support

variable {α : Type}

inductive Regex (α : Type) where
  | empty
  | char (test : α → Bool)
  | seq (r s : Regex α)
  /-- The left side is preferred. -/
  | alt (r s : Regex α)
  /-- As often as possible or as seldom, and no more often than the limit. -/
  | loop (greedy : Bool) (limit : Option ℕ) (r : Regex α)
  | group (n : ℕ) (r : Regex α)
  | atStart
  | atEnd
  | boundary (isWord : α → Bool)
  | ahead (r : Regex α)
  | notAhead (r : Regex α)
  | notBehind (test : α → Bool)

/-- A place in a text, with what was read before it, last first. -/
structure Cursor (α : Type) where
  before : List α
  rest : List α
  groups : List (ℕ × List α) := []
  deriving DecidableEq

/-- The cursor after the text `w`, which the rest begins with. -/
def Cursor.advance (s : Cursor α) (w rest : List α) : Cursor α :=
  { s with before := w.reverse ++ s.before, rest }

/-- What was read between two cursors. -/
def Cursor.readTo (s t : Cursor α) : List α :=
  (t.before.take (t.before.length - s.before.length)).reverse

/-- The group `n` is what was read from `s` on. -/
def Cursor.close (n : ℕ) (s t : Cursor α) : Cursor α :=
  { t with groups := (n, s.readTo t) :: t.groups }

def Cursor.group (s : Cursor α) (n : ℕ) : Option (List α) :=
  (s.groups.find? (·.1 == n)).map Prod.snd

namespace Regex

/-! ## Ends -/

/-- One more iteration from each end of the last, or none, the preferred first. -/
def iterate (ends : Cursor α → List (Cursor α)) (greedy : Bool) :
    ℕ → Cursor α → List (Cursor α)
  | 0, s => [s]
  | n + 1, s =>
      let more := ((ends s).filter fun t => t.rest.length < s.rest.length).flatMap
        (iterate ends greedy n)
      if greedy then more ++ [s] else s :: more

def ends : Regex α → Cursor α → List (Cursor α)
  | empty, s => [s]
  | char test, s =>
      match s.rest with
      | [] => []
      | c :: rest => if test c then [s.advance [c] rest] else []
  | seq r r', s => (ends r s).flatMap (ends r')
  | alt r r', s => ends r s ++ ends r' s
  | loop greedy limit r, s => iterate (ends r) greedy (limit.getD s.rest.length) s
  | group n r, s => (ends r s).map (s.close n)
  | atStart, s => if s.before.isEmpty then [s] else []
  | atEnd, s => if s.rest.isEmpty then [s] else []
  | boundary isWord, s =>
      if s.before.head?.any isWord = s.rest.head?.any isWord then [] else [s]
  | ahead r, s =>
      match ends r s with
      | [] => []
      | t :: _ => [{ s with groups := t.groups }]
  | notAhead r, s => if (ends r s).isEmpty then [s] else []
  | notBehind test, s => if s.before.head?.any test then [] else [s]

/-! ## Searching -/

structure Match (α : Type) where
  start : Cursor α
  stop : Cursor α

def Match.text (m : Match α) : List α := m.start.readTo m.stop

def Match.group (m : Match α) (n : ℕ) : Option (List α) := m.stop.group n

/-- The first match from a place on. -/
def execFrom (r : Regex α) : List α → List α → Option (Match α)
  | before, [] => (r.ends ⟨before, [], []⟩).head?.map fun t => ⟨⟨before, [], []⟩, t⟩
  | before, c :: rest =>
      match (r.ends ⟨before, c :: rest, []⟩).head? with
      | some t => some ⟨⟨before, c :: rest, []⟩, t⟩
      | none => execFrom r (c :: before) rest

def exec (r : Regex α) (text : List α) : Option (Match α) := r.execFrom [] text

def test (r : Regex α) (text : List α) : Bool := (r.exec text).isSome

/-- The matches of a global search, each from the end of the last.  After an empty match
the search goes on one place further. -/
def matchesFrom (r : Regex α) : ℕ → List α → List α → List (Match α)
  | 0, _, _ => []
  | n + 1, before, rest =>
      match r.execFrom before rest with
      | none => []
      | some m =>
          if m.stop.rest.length < m.start.rest.length then
            m :: matchesFrom r n m.stop.before m.stop.rest
          else
            match m.stop.rest with
            | [] => [m]
            | c :: later => m :: matchesFrom r n (c :: m.stop.before) later

/-- All matches, which are no more than the places of the text. -/
def allMatches (r : Regex α) (text : List α) : List (Match α) :=
  r.matchesFrom (text.length + 1) [] text

/-- The pieces of the text between the matches; `taken` of it stand before this place. -/
def pieces (taken : ℕ) (text : List α) : List (Match α) → List (List α)
  | [] => [text.drop taken]
  | m :: later =>
      (text.take m.start.before.length).drop taken :: pieces m.stop.before.length text later

/-- `text.split(r)`, of an expression that matches no empty text. -/
def split (r : Regex α) (text : List α) : List (List α) := pieces 0 text (r.allMatches text)

/-- `text.replace(r, word)` of a global expression. -/
def replaceAll (r : Regex α) (word text : List α) : List α :=
  List.intercalate word (r.split text)

/-! ## Expressions -/

def many (r : Regex α) : Regex α := loop true none r

/-- `r+`. -/
def plus (r : Regex α) : Regex α := seq r (many r)

/-- `r?`. -/
def opt (r : Regex α) : Regex α := alt r empty

/-- `r{n}`. -/
def times (n : ℕ) (r : Regex α) : Regex α :=
  match n with
  | 0 => empty
  | n + 1 => seq r (times n r)

/-- The characters of a text, one by one. -/
def word (same : α → α → Bool) : List α → Regex α
  | [] => empty
  | c :: cs => seq (char (same c)) (word same cs)

/-- `r{n,}`. -/
def atLeast (n : ℕ) (r : Regex α) : Regex α := seq (times n r) (many r)

/-- One expression after the other. -/
def inOrder : List (Regex α) → Regex α
  | [] => empty
  | [r] => r
  | r :: rs => seq r (inOrder rs)

def choice : List (Regex α) → Regex α
  | [] => char fun _ => false
  | [r] => r
  | r :: rs => alt r (choice rs)

end Regex

namespace Cursor

@[simp] theorem advance_rest (s : Cursor α) (w rest : List α) :
    (s.advance w rest).rest = rest := rfl

@[simp] theorem advance_groups (s : Cursor α) (w rest : List α) :
    (s.advance w rest).groups = s.groups := rfl

@[simp] theorem advance_before (s : Cursor α) (w rest : List α) :
    (s.advance w rest).before = w.reverse ++ s.before := rfl

@[simp] theorem advance_nil (s : Cursor α) : s.advance [] s.rest = s := rfl

@[simp] theorem advance_advance (s : Cursor α) (v w rest rest' : List α) :
    (s.advance v rest).advance w rest' = s.advance (v ++ w) rest' := by
  simp [advance]

theorem readTo_eq {s t : Cursor α} {w : List α} (h : t.before = w.reverse ++ s.before) :
    s.readTo t = w := by
  rw [readTo, h]
  simp

@[simp] theorem readTo_advance (s : Cursor α) (w rest : List α) :
    s.readTo (s.advance w rest) = w := readTo_eq rfl

end Cursor

namespace Regex

/-! ## Ends of each kind -/

theorem ends_char_eq (test : α → Bool) (s : Cursor α) :
    (char test).ends s =
      match s.rest with
      | [] => []
      | c :: rest => if test c then [s.advance [c] rest] else [] := rfl

theorem ends_seq (r r' : Regex α) (s : Cursor α) :
    (seq r r').ends s = (r.ends s).flatMap r'.ends := rfl

theorem ends_alt (r r' : Regex α) (s : Cursor α) :
    (alt r r').ends s = r.ends s ++ r'.ends s := rfl

theorem ends_loop (greedy : Bool) (limit : Option ℕ) (r : Regex α) (s : Cursor α) :
    (loop greedy limit r).ends s =
      iterate r.ends greedy (limit.getD s.rest.length) s := rfl

theorem ends_group (n : ℕ) (r : Regex α) (s : Cursor α) :
    (group n r).ends s = (r.ends s).map (s.close n) := rfl

theorem ends_atStart (s : Cursor α) :
    (atStart : Regex α).ends s = if s.before.isEmpty then [s] else [] := rfl

theorem ends_ahead (r : Regex α) (s : Cursor α) :
    (ahead r).ends s =
      match r.ends s with
      | [] => []
      | t :: _ => [{ s with groups := t.groups }] := rfl

/-! ## What is read -/

/-- The second cursor is after the first, with only such characters between them. -/
def Reads (P : α → Prop) (s t : Cursor α) : Prop :=
  ∃ w, s.rest = w ++ t.rest ∧ t.before = w.reverse ++ s.before ∧ ∀ c ∈ w, P c

theorem Reads.refl (P : α → Prop) (s : Cursor α) : Reads P s s :=
  ⟨[], rfl, rfl, fun _ h => absurd h List.not_mem_nil⟩

theorem Reads.trans {P : α → Prop} {s t u : Cursor α} (hst : Reads P s t)
    (htu : Reads P t u) : Reads P s u := by
  obtain ⟨v, hrest, hbefore, hv⟩ := hst
  obtain ⟨w, hrest', hbefore', hw⟩ := htu
  refine ⟨v ++ w, by rw [hrest, hrest', List.append_assoc], ?_, ?_⟩
  · rw [hbefore', hbefore, List.reverse_append, List.append_assoc]
  · intro c hc
    exact (List.mem_append.mp hc).elim (hv c) (hw c)

/-- A relation of the cursors around one iteration holds around a loop. -/
theorem iterate_induction {R : Cursor α → Cursor α → Prop} (hrefl : ∀ s, R s s)
    (htrans : ∀ {s t u}, R s t → R t u → R s u) {ends : Cursor α → List (Cursor α)}
    (hends : ∀ s, ∀ t ∈ ends s, R s t) (greedy : Bool) (n : ℕ) (s : Cursor α) :
    ∀ t ∈ iterate ends greedy n s, R s t := by
  induction n generalizing s with
  | zero =>
      intro t ht
      rw [List.mem_singleton.mp ht]
      exact hrefl s
  | succ n ih =>
      intro u hu
      have hcases : u = s ∨ u ∈ ((ends s).filter
          fun t => t.rest.length < s.rest.length).flatMap (iterate ends greedy n) := by
        rw [iterate] at hu
        cases greedy with
        | true => exact (List.mem_append.mp hu).symm.imp_left List.mem_singleton.mp
        | false => exact List.mem_cons.mp hu
      rcases hcases with rfl | hmore
      · exact hrefl u
      · obtain ⟨t, ht, hut⟩ := List.mem_flatMap.mp hmore
        exact htrans (hends s t (List.mem_filter.mp ht).1) (ih t u hut)

/-- Whatever the expression reads is of such characters. -/
def Within (P : α → Prop) : Regex α → Prop
  | char test => ∀ c, test c = true → P c
  | seq r s | alt r s => Within P r ∧ Within P s
  | loop _ _ r | group _ r => Within P r
  | empty | atStart | atEnd | boundary _ | ahead _ | notAhead _ | notBehind _ => True

/-- An assertion ends where it begins. -/
theorem eq_of_mem_ite {p : Prop} [Decidable p] {s t : Cursor α}
    (h : t ∈ if p then [s] else []) : t = s := by
  split_ifs at h
  · exact List.mem_singleton.mp h
  · exact absurd h List.not_mem_nil

theorem eq_of_mem_ite_not {p : Prop} [Decidable p] {s t : Cursor α}
    (h : t ∈ if p then [] else [s]) : t = s := by
  split_ifs at h
  · exact absurd h List.not_mem_nil
  · exact List.mem_singleton.mp h

theorem reads_of_mem_ends {P : α → Prop} {r : Regex α} (h : r.Within P) :
    ∀ s, ∀ t ∈ r.ends s, Reads P s t := by
  induction r with
  | empty =>
      intro s t ht
      rw [List.mem_singleton.mp ht]
      exact Reads.refl P s
  | char test =>
      intro s t ht
      rw [ends_char_eq] at ht
      cases hrest : s.rest with
      | nil => simp [hrest] at ht
      | cons c rest =>
          simp only [hrest] at ht
          split_ifs at ht with hc
          · rw [List.mem_singleton.mp ht]
            refine ⟨[c], by simp [hrest], rfl, ?_⟩
            intro d hd
            rw [List.mem_singleton.mp hd]
            exact h c hc
          · exact absurd ht List.not_mem_nil
  | seq r r' ihr ihr' =>
      intro s u hu
      obtain ⟨t, ht, hut⟩ := List.mem_flatMap.mp hu
      exact (ihr h.1 s t ht).trans (ihr' h.2 t u hut)
  | alt r r' ihr ihr' =>
      intro s t ht
      exact (List.mem_append.mp ht).elim (ihr h.1 s t) (ihr' h.2 s t)
  | loop greedy limit r ih =>
      intro s
      exact iterate_induction (Reads.refl P) Reads.trans (ih h) greedy _ s
  | group n r ih =>
      intro s t ht
      obtain ⟨u, hu, rfl⟩ := List.mem_map.mp ht
      exact ih h s u hu
  | atStart =>
      intro s t ht
      rw [eq_of_mem_ite ht]
      exact Reads.refl P s
  | atEnd =>
      intro s t ht
      rw [eq_of_mem_ite ht]
      exact Reads.refl P s
  | boundary isWord =>
      intro s t ht
      rw [eq_of_mem_ite_not ht]
      exact Reads.refl P s
  | ahead r =>
      intro s t ht
      rw [ends_ahead] at ht
      split at ht
      · exact absurd ht List.not_mem_nil
      · rw [List.mem_singleton.mp ht]
        exact Reads.refl P s
  | notAhead r =>
      intro s t ht
      rw [eq_of_mem_ite ht]
      exact Reads.refl P s
  | notBehind test =>
      intro s t ht
      rw [eq_of_mem_ite_not ht]
      exact Reads.refl P s

/-- What each group reads has its property. -/
def GroupsRead (P : ℕ → List α → Prop) : Regex α → Prop
  | group n r => (∀ s, ∀ t ∈ r.ends s, P n (s.readTo t)) ∧ GroupsRead P r
  | seq r s | alt r s => GroupsRead P r ∧ GroupsRead P s
  | loop _ _ r | ahead r => GroupsRead P r
  | char _ | empty | atStart | atEnd | boundary _ | notAhead _ | notBehind _ => True

/-- The second cursor has the groups of the first, under some with their property. -/
def Keeps (P : ℕ → List α → Prop) (s t : Cursor α) : Prop :=
  ∃ kept, t.groups = kept ++ s.groups ∧ ∀ g ∈ kept, P g.1 g.2

theorem Keeps.of_groups_eq {P : ℕ → List α → Prop} {s t : Cursor α}
    (h : t.groups = s.groups) : Keeps P s t := ⟨[], h, fun _ hg => absurd hg List.not_mem_nil⟩

theorem Keeps.trans {P : ℕ → List α → Prop} {s t u : Cursor α} (hst : Keeps P s t)
    (htu : Keeps P t u) : Keeps P s u := by
  obtain ⟨kept, hgroups, hkept⟩ := hst
  obtain ⟨later, hgroups', hlater⟩ := htu
  refine ⟨later ++ kept, by rw [hgroups', hgroups, List.append_assoc], ?_⟩
  intro g hg
  exact (List.mem_append.mp hg).elim (hlater g) (hkept g)

theorem keeps_of_mem_ends {P : ℕ → List α → Prop} {r : Regex α} (h : r.GroupsRead P) :
    ∀ s, ∀ t ∈ r.ends s, Keeps P s t := by
  induction r with
  | empty =>
      intro s t ht
      rw [List.mem_singleton.mp ht]
      exact .of_groups_eq rfl
  | char test =>
      intro s t ht
      rw [ends_char_eq] at ht
      cases hrest : s.rest with
      | nil => simp [hrest] at ht
      | cons c rest =>
          simp only [hrest] at ht
          rw [eq_of_mem_ite ht]
          exact .of_groups_eq rfl
  | seq r r' ihr ihr' =>
      intro s u hu
      obtain ⟨t, ht, hut⟩ := List.mem_flatMap.mp hu
      exact (ihr h.1 s t ht).trans (ihr' h.2 t u hut)
  | alt r r' ihr ihr' =>
      intro s t ht
      exact (List.mem_append.mp ht).elim (ihr h.1 s t) (ihr' h.2 s t)
  | loop greedy limit r ih =>
      intro s
      exact iterate_induction (fun _ => .of_groups_eq rfl) Keeps.trans (ih h) greedy _ s
  | group n r ih =>
      intro s t ht
      obtain ⟨u, hu, rfl⟩ := List.mem_map.mp ht
      obtain ⟨kept, hgroups, hkept⟩ := ih h.2 s u hu
      refine ⟨(n, s.readTo u) :: kept, by rw [Cursor.close, hgroups]; rfl, ?_⟩
      exact List.forall_mem_cons.mpr ⟨h.1 s u hu, hkept⟩
  | atStart =>
      intro s t ht
      rw [eq_of_mem_ite ht]
      exact .of_groups_eq rfl
  | atEnd =>
      intro s t ht
      rw [eq_of_mem_ite ht]
      exact .of_groups_eq rfl
  | boundary isWord =>
      intro s t ht
      rw [eq_of_mem_ite_not ht]
      exact .of_groups_eq rfl
  | ahead r ih =>
      intro s t ht
      rw [ends_ahead] at ht
      split at ht
      · exact absurd ht List.not_mem_nil
      · next u later hends =>
          rw [List.mem_singleton.mp ht]
          exact ih h s u (hends ▸ .head _)
  | notAhead r =>
      intro s t ht
      rw [eq_of_mem_ite ht]
      exact .of_groups_eq rfl
  | notBehind test =>
      intro s t ht
      rw [eq_of_mem_ite_not ht]
      exact .of_groups_eq rfl

/-- What is read has only the characters that the expression reads. -/
theorem readTo_within {P : α → Prop} {r : Regex α} (h : r.Within P) {s t : Cursor α}
    (ht : t ∈ r.ends s) : ∀ c ∈ s.readTo t, P c := by
  obtain ⟨w, -, hbefore, hw⟩ := reads_of_mem_ends h s t ht
  rwa [Cursor.readTo_eq hbefore]

/-- `x+` reads some characters of its kind. -/
theorem readTo_plus {test : α → Bool} {s t : Cursor α} (ht : t ∈ (plus (char test)).ends s) :
    s.readTo t ≠ [] ∧ ∀ c ∈ s.readTo t, test c = true := by
  have hplus : (plus (char test)).Within fun c => test c = true :=
    ⟨fun _ h => h, fun _ h => h⟩
  refine ⟨?_, readTo_within hplus ht⟩
  obtain ⟨u, hu, hut⟩ := List.mem_flatMap.mp ht
  rw [ends_char_eq] at hu
  cases hrest : s.rest with
  | nil => simp [hrest] at hu
  | cons c rest =>
      simp only [hrest] at hu
      rw [eq_of_mem_ite hu] at hut
      have hmany : (many (char test)).Within fun _ => True := fun _ _ => trivial
      obtain ⟨w, -, hbefore, -⟩ := reads_of_mem_ends hmany _ _ hut
      rw [Cursor.advance_before, ← List.append_assoc, ← List.reverse_append] at hbefore
      rw [Cursor.readTo_eq hbefore]
      simp

theorem groupsRead_true (r : Regex α) : r.GroupsRead fun _ _ => True := by
  induction r with
  | seq r s ihr ihs => exact ⟨ihr, ihs⟩
  | alt r s ihr ihs => exact ⟨ihr, ihs⟩
  | loop greedy limit r ih => exact ih
  | group n r ih => exact ⟨fun _ _ _ => trivial, ih⟩
  | ahead r ih => exact ih
  | _ => trivial

/-- Every way through the expression passes the group. -/
def Sets (n : ℕ) : Regex α → Prop
  | group m _ => m = n
  | seq r s => Sets n r ∨ Sets n s
  | _ => False

theorem mem_keys_of_sets {n : ℕ} {r : Regex α} (h : r.Sets n) :
    ∀ s, ∀ t ∈ r.ends s, n ∈ t.groups.map Prod.fst := by
  induction r with
  | seq r r' ihr ihr' =>
      intro s u hu
      obtain ⟨t, ht, hut⟩ := List.mem_flatMap.mp hu
      rcases h with hleft | hright
      · obtain ⟨kept, hgroups, -⟩ := keeps_of_mem_ends (groupsRead_true r') t u hut
        rw [hgroups, List.map_append]
        exact List.mem_append_right _ (ihr hleft s t ht)
      · exact ihr' hright t u hut
  | group m r ih =>
      intro s t ht
      obtain ⟨u, -, rfl⟩ := List.mem_map.mp ht
      rw [show n = m from h.symm]
      exact .head _
  | _ => exact absurd h (by simp [Sets])

theorem groupsRead_word (P : ℕ → List α → Prop) (same : α → α → Bool) (w : List α) :
    (word same w).GroupsRead P := by
  induction w with
  | nil => trivial
  | cons c w ih => exact ⟨trivial, ih⟩

theorem within_word {P : α → Prop} {same : α → α → Bool} {w : List α}
    (h : ∀ c ∈ w, ∀ d, same c d = true → P d) : (word same w).Within P := by
  induction w with
  | nil => trivial
  | cons c w ih =>
      obtain ⟨hc, hw⟩ := List.forall_mem_cons.mp h
      exact ⟨hc, ih hw⟩

theorem within_inOrder {P : α → Prop} {rs : List (Regex α)} (h : ∀ r ∈ rs, r.Within P) :
    (inOrder rs).Within P := by
  induction rs with
  | nil => trivial
  | cons r rs ih =>
      obtain ⟨hr, hrs⟩ := List.forall_mem_cons.mp h
      cases rs with
      | nil => exact hr
      | cons r' rs => exact ⟨hr, ih hrs⟩

theorem within_choice {P : α → Prop} {rs : List (Regex α)} (h : ∀ r ∈ rs, r.Within P) :
    (choice rs).Within P := by
  induction rs with
  | nil => exact fun c hc => absurd hc Bool.false_ne_true
  | cons r rs ih =>
      obtain ⟨hr, hrs⟩ := List.forall_mem_cons.mp h
      cases rs with
      | nil => exact hr
      | cons r' rs => exact ⟨hr, ih hrs⟩

theorem groupsRead_inOrder {P : ℕ → List α → Prop} {rs : List (Regex α)}
    (h : ∀ r ∈ rs, r.GroupsRead P) : (inOrder rs).GroupsRead P := by
  induction rs with
  | nil => trivial
  | cons r rs ih =>
      obtain ⟨hr, hrs⟩ := List.forall_mem_cons.mp h
      cases rs with
      | nil => exact hr
      | cons r' rs => exact ⟨hr, ih hrs⟩

theorem groupsRead_choice {P : ℕ → List α → Prop} {rs : List (Regex α)}
    (h : ∀ r ∈ rs, r.GroupsRead P) : (choice rs).GroupsRead P := by
  induction rs with
  | nil => trivial
  | cons r rs ih =>
      obtain ⟨hr, hrs⟩ := List.forall_mem_cons.mp h
      cases rs with
      | nil => exact hr
      | cons r' rs => exact ⟨hr, ih hrs⟩

/-- A group of one kind of characters. -/
theorem groupsRead_plus {P : ℕ → List α → Prop} {test : α → Bool} {n : ℕ}
    (h : ∀ v, v ≠ [] → (∀ c ∈ v, test c = true) → P n v) :
    (group n (plus (char test))).GroupsRead P := by
  refine ⟨fun s t ht => ?_, trivial, trivial⟩
  obtain ⟨hne, hall⟩ := readTo_plus ht
  exact h _ hne hall

/-! ## The preferred end -/

/-- The expression, read from the first cursor, ends at the second. -/
def First (r : Regex α) (s t : Cursor α) : Prop := (r.ends s).head? = some t

theorem First.mem {r : Regex α} {s t : Cursor α} (h : First r s t) : t ∈ r.ends s :=
  List.mem_of_mem_head? h

/-- The first end that goes on decides, and the first end of all does go on. -/
theorem First.seq {r r' : Regex α} {s t u : Cursor α} (h : First r s t)
    (h' : First r' t u) : First (.seq r r') s u := by
  rw [First, ends_seq, List.head?_flatMap]
  obtain ⟨later, hends⟩ := List.head?_eq_some_iff.mp h
  rw [hends, List.findSome?_cons, h']

theorem First.alt_left {r r' : Regex α} {s t : Cursor α} (h : First r s t) :
    First (.alt r r') s t := by
  rw [First, ends_alt, List.head?_append, h]
  rfl

theorem First.alt_right {r r' : Regex α} {s t : Cursor α} (hnone : r.ends s = [])
    (h : First r' s t) : First (.alt r r') s t := by
  rw [First, ends_alt, hnone, List.nil_append]
  exact h

theorem First.group {r : Regex α} {s t : Cursor α} (h : First r s t) (n : ℕ) :
    First (.group n r) s (s.close n t) := by
  rw [First, ends_group, List.head?_map, h]
  rfl

theorem first_empty (s : Cursor α) : First .empty s s := rfl

theorem first_atStart {s : Cursor α} (h : s.before = []) : First .atStart s s := by
  simp [First, ends_atStart, h]

theorem ends_char {test : α → Bool} {s : Cursor α} {c : α} {rest : List α}
    (hrest : s.rest = c :: rest) :
    (char test).ends s = if test c then [s.advance [c] rest] else [] := by
  rw [ends_char_eq, hrest]

theorem first_char {test : α → Bool} {s : Cursor α} {c : α} {rest : List α}
    (hrest : s.rest = c :: rest) (hc : test c = true) :
    First (.char test) s (s.advance [c] rest) := by
  rw [First, ends_char hrest, if_pos hc]
  rfl

/-- A text is read where it stands. -/
theorem first_word [DecidableEq α] {w rest : List α} {s : Cursor α}
    (hrest : s.rest = w ++ rest) :
    First (word (fun a b => decide (a = b)) w) s (s.advance w rest) := by
  induction w generalizing s with
  | nil =>
      rw [show rest = s.rest from hrest.symm]
      exact first_empty s
  | cons c w ih =>
      have hc := @first_char _ (fun b => decide (c = b)) s c (w ++ rest) hrest
        (decide_eq_true rfl)
      have hw := @ih (s.advance [c] (w ++ rest)) rfl
      rw [Cursor.advance_advance] at hw
      exact hc.seq hw

/-- A text that does not stand there is not read. -/
theorem ends_word_eq_nil [DecidableEq α] {w : List α} {s : Cursor α} (h : ¬ w <+: s.rest) :
    (word (fun a b => decide (a = b)) w).ends s = [] := by
  induction w generalizing s with
  | nil => exact absurd List.nil_prefix h
  | cons c w ih =>
      cases hrest : s.rest with
      | nil => simp [word, ends_seq, ends_char_eq, hrest]
      | cons d rest =>
          rw [word, ends_seq, ends_char hrest]
          split_ifs with hc
          · rw [List.flatMap_singleton]
            apply ih
            rintro hprefix
            apply h
            rw [hrest, of_decide_eq_true hc]
            exact (List.cons_prefix_cons).mpr ⟨rfl, hprefix⟩
          · rfl

theorem ends_many_cons {test : α → Bool} {s : Cursor α} {c : α} {rest : List α}
    (hrest : s.rest = c :: rest) (hc : test c = true) :
    (many (char test)).ends s = (many (char test)).ends (s.advance [c] rest) ++ [s] := by
  rw [many, ends_loop, ends_loop, hrest]
  simp only [Option.getD_none, List.length_cons, iterate, Cursor.advance_rest]
  rw [ends_char hrest, if_pos hc]
  simp [hrest]

theorem ends_many_stop {test : α → Bool} {s : Cursor α}
    (h : ∀ c rest, s.rest = c :: rest → test c = false) :
    (many (char test)).ends s = [s] := by
  rw [many, ends_loop]
  cases hrest : s.rest with
  | nil => rfl
  | cons c rest =>
      simp only [Option.getD_none, List.length_cons, iterate]
      rw [ends_char hrest, h c rest hrest]
      simp

/-- A loop over one kind of characters reads as far as they go. -/
theorem first_many {test : α → Bool} {w rest : List α} {s : Cursor α}
    (hrest : s.rest = w ++ rest) (hw : ∀ c ∈ w, test c = true)
    (hstop : ∀ c later, rest = c :: later → test c = false) :
    First (many (.char test)) s (s.advance w rest) := by
  induction w generalizing s with
  | nil =>
      obtain rfl : s.rest = rest := hrest
      rw [First, ends_many_stop hstop]
      rfl
  | cons c w ih =>
      obtain ⟨hc, hw⟩ := List.forall_mem_cons.mp hw
      have hmore := @ih (s.advance [c] (w ++ rest)) rfl hw
      rw [Cursor.advance_advance] at hmore
      have hcons : s.rest = c :: (w ++ rest) := hrest
      rw [First, ends_many_cons hcons hc, List.head?_append, hmore]
      rfl

theorem first_plus {test : α → Bool} {w rest : List α} {s : Cursor α}
    (hrest : s.rest = w ++ rest) (hne : w ≠ []) (hw : ∀ c ∈ w, test c = true)
    (hstop : ∀ c later, rest = c :: later → test c = false) :
    First (plus (.char test)) s (s.advance w rest) := by
  cases w with
  | nil => exact absurd rfl hne
  | cons c w =>
      obtain ⟨hc, hw⟩ := List.forall_mem_cons.mp hw
      have hmore := @first_many _ test w rest (s.advance [c] (w ++ rest)) rfl hw hstop
      rw [Cursor.advance_advance] at hmore
      exact (first_char hrest hc).seq hmore

/-! ## Backtracking -/

section Backtracking

variable {β : Type} {test : α → Bool} {f : Cursor α → List β}

/-- Nothing comes of a loop if nothing comes of what it can read. -/
theorem flatMap_many_eq_nil {s : Cursor α}
    (h : ∀ v z, s.rest = v ++ z → (∀ c ∈ v, test c = true) → f (s.advance v z) = []) :
    ((many (char test)).ends s).flatMap f = [] := by
  generalize hlist : s.rest = text
  induction text generalizing s with
  | nil =>
      rw [ends_many_stop (by simp [hlist]), List.flatMap_singleton]
      exact h [] s.rest rfl (by simp)
  | cons c text ih =>
      have hself : f s = [] := h [] s.rest rfl (by simp)
      by_cases hc : test c = true
      · rw [ends_many_cons hlist hc, List.flatMap_append, List.flatMap_singleton, hself,
          List.append_nil]
        apply ih _ rfl
        intro v z hvz hv
        rw [Cursor.advance_advance]
        have hvz : text = v ++ z := hvz
        exact h (c :: v) z (by rw [hlist, hvz]; rfl) (List.forall_mem_cons.mpr ⟨hc, hv⟩)
      · rw [ends_many_stop, List.flatMap_singleton]
        · exact hself
        · intro d rest hd
          rw [hlist] at hd
          rw [← (List.cons.inj hd).1]
          exact Bool.eq_false_iff.mpr hc

/-- A loop gives back what it read too much: the longest text after which something comes
decides. -/
theorem head?_flatMap_many {w rest : List α} {s : Cursor α} {u : β}
    (hrest : s.rest = w ++ rest) (hw : ∀ c ∈ w, test c = true)
    (hfirst : (f (s.advance w rest)).head? = some u)
    (hlonger : ∀ v z, v ≠ [] → rest = v ++ z → (∀ c ∈ v, test c = true) →
      f (s.advance (w ++ v) z) = []) :
    (((many (char test)).ends s).flatMap f).head? = some u := by
  induction w generalizing s with
  | nil =>
      obtain rfl : s.rest = rest := hrest
      cases hlist : s.rest with
      | nil =>
          rw [ends_many_stop (by simp [hlist]), List.flatMap_singleton]
          exact hfirst
      | cons c text =>
          by_cases hc : test c = true
          · have hmore : ((many (char test)).ends (s.advance [c] text)).flatMap f = [] := by
              apply flatMap_many_eq_nil
              intro v z hvz hv
              have hvz : text = v ++ z := hvz
              rw [Cursor.advance_advance]
              exact hlonger (c :: v) z (by simp) (by rw [hlist, hvz]; rfl)
                (List.forall_mem_cons.mpr ⟨hc, hv⟩)
            rw [ends_many_cons hlist hc, List.flatMap_append, hmore,
              List.flatMap_singleton, List.nil_append]
            exact hfirst
          · rw [ends_many_stop, List.flatMap_singleton]
            · exact hfirst
            · intro d rest hd
              rw [hlist] at hd
              rw [← (List.cons.inj hd).1]
              exact Bool.eq_false_iff.mpr hc
  | cons c w ih =>
      obtain ⟨hc, hw⟩ := List.forall_mem_cons.mp hw
      have hmore := @ih (s.advance [c] (w ++ rest)) rfl hw
        (by rw [Cursor.advance_advance]; exact hfirst)
        (by
          intro v z hv hvz hall
          rw [Cursor.advance_advance]
          exact hlonger v z hv hvz hall)
      have hcons : s.rest = c :: (w ++ rest) := hrest
      rw [ends_many_cons hcons hc, List.flatMap_append, List.head?_append, hmore]
      rfl

end Backtracking

/-! ## What is left

Unless an expression looks back, its first end is known by the text that is left and by the
groups. -/

/-- The first end leaves this text and these groups. -/
def Leaves (r : Regex α) (s : Cursor α) (rest : List α) (groups : List (ℕ × List α)) : Prop :=
  ∃ t, First r s t ∧ t.rest = rest ∧ t.groups = groups

theorem Leaves.seq {r r' : Regex α} {s : Cursor α} {rest rest' : List α}
    {groups groups' : List (ℕ × List α)} (h : Leaves r s rest groups)
    (h' : ∀ t : Cursor α, t.rest = rest → t.groups = groups → Leaves r' t rest' groups') :
    Leaves (.seq r r') s rest' groups' := by
  obtain ⟨t, ht, hrest, hgroups⟩ := h
  obtain ⟨u, hu, hleft⟩ := h' t hrest hgroups
  exact ⟨u, ht.seq hu, hleft⟩

theorem leaves_atStart {s : Cursor α} (h : s.before = []) :
    Leaves .atStart s s.rest s.groups := ⟨s, first_atStart h, rfl, rfl⟩

theorem leaves_empty (s : Cursor α) : Leaves .empty s s.rest s.groups :=
  ⟨s, first_empty s, rfl, rfl⟩

theorem Leaves.alt_left {r r' : Regex α} {s : Cursor α} {rest : List α}
    {groups : List (ℕ × List α)} (h : Leaves r s rest groups) :
    Leaves (.alt r r') s rest groups := by
  obtain ⟨t, ht, hleft⟩ := h
  exact ⟨t, ht.alt_left, hleft⟩

theorem Leaves.alt_right {r r' : Regex α} {s : Cursor α} {rest : List α}
    {groups : List (ℕ × List α)} (hnone : r.ends s = []) (h : Leaves r' s rest groups) :
    Leaves (.alt r r') s rest groups := by
  obtain ⟨t, ht, hleft⟩ := h
  exact ⟨t, First.alt_right hnone ht, hleft⟩

theorem leaves_word [DecidableEq α] {w rest : List α} {s : Cursor α}
    (hrest : s.rest = w ++ rest) :
    Leaves (word (fun a b => decide (a = b)) w) s rest s.groups :=
  ⟨_, first_word hrest, rfl, rfl⟩

theorem leaves_many {test : α → Bool} {w rest : List α} {s : Cursor α}
    (hrest : s.rest = w ++ rest) (hw : ∀ c ∈ w, test c = true)
    (hstop : ∀ c ∈ rest.head?, test c = false) :
    Leaves (many (.char test)) s rest s.groups := by
  refine ⟨_, first_many hrest hw ?_, rfl, rfl⟩
  rintro c later rfl
  exact hstop c rfl

/-- A group of one kind of characters keeps them as far as they go. -/
theorem leaves_group_plus {test : α → Bool} {w rest : List α} {s : Cursor α}
    (hrest : s.rest = w ++ rest) (hne : w ≠ []) (hw : ∀ c ∈ w, test c = true)
    (hstop : ∀ c ∈ rest.head?, test c = false) (n : ℕ) :
    Leaves (.group n (plus (.char test))) s rest ((n, w) :: s.groups) := by
  have hplus : First (plus (.char test)) s (s.advance w rest) := by
    apply first_plus hrest hne hw
    rintro c later rfl
    exact hstop c rfl
  refine ⟨_, hplus.group n, rfl, ?_⟩
  rw [Cursor.close, Cursor.readTo_advance]
  rfl

/-- A group gives back what it kept too much: it keeps the longest text after which the
expression goes on. -/
theorem leaves_group_plus_seq {test : α → Bool} {k : Regex α} {w rest rest' : List α}
    {groups : List (ℕ × List α)} {s : Cursor α} {n : ℕ} (hrest : s.rest = w ++ rest)
    (hne : w ≠ []) (hw : ∀ c ∈ w, test c = true)
    (hnext : ∀ t : Cursor α, t.rest = rest → t.groups = (n, w) :: s.groups →
      Leaves k t rest' groups)
    (hlonger : ∀ v z, v ≠ [] → rest = v ++ z → ∀ t : Cursor α, t.rest = z → k.ends t = []) :
    Leaves (.seq (.group n (plus (.char test))) k) s rest' groups := by
  obtain ⟨c, w, rfl⟩ := List.exists_cons_of_ne_nil hne
  obtain ⟨hc, hw⟩ := List.forall_mem_cons.mp hw
  have hcons : s.rest = c :: (w ++ rest) := hrest
  have hclose : s.readTo (s.advance (c :: w) rest) = c :: w := Cursor.readTo_advance _ _ _
  obtain ⟨u, hu, hleft⟩ := hnext (s.close n (s.advance (c :: w) rest)) rfl
    (by rw [Cursor.close, hclose]; rfl)
  refine ⟨u, ?_, hleft⟩
  have hflat : (Regex.seq (.group n (plus (.char test))) k).ends s =
      ((many (.char test)).ends (s.advance [c] (w ++ rest))).flatMap
        fun t => k.ends (s.close n t) := by
    rw [ends_seq, ends_group, plus, ends_seq, ends_char hcons, if_pos hc, List.flatMap_singleton,
      List.flatMap_map]
  rw [First, hflat]
  apply head?_flatMap_many rfl hw
  · rw [Cursor.advance_advance]
    exact hu
  · intro v z hv hvz _
    exact hlonger v z hv hvz _ rfl

/-! ## Matches -/

theorem execFrom_mem {r : Regex α} {before rest : List α} {m : Match α}
    (h : r.execFrom before rest = some m) :
    m.start.groups = [] ∧ m.stop ∈ r.ends m.start := by
  induction rest generalizing before with
  | nil =>
      obtain ⟨t, ht, rfl⟩ := Option.map_eq_some_iff.mp h
      exact ⟨rfl, List.mem_of_mem_head? ht⟩
  | cons c rest ih =>
      rw [execFrom] at h
      cases hfirst : (r.ends ⟨before, c :: rest, []⟩).head? with
      | none =>
          rw [hfirst] at h
          exact ih h
      | some t =>
          rw [hfirst] at h
          obtain rfl := Option.some.inj h
          exact ⟨rfl, List.mem_of_mem_head? hfirst⟩

/-- What a group of a match keeps has the property of the group. -/
theorem group_read {P : ℕ → List α → Prop} {r : Regex α} (hr : r.GroupsRead P)
    {text : List α} {m : Match α} (h : r.exec text = some m) {n : ℕ} {v : List α}
    (hv : m.group n = some v) : P n v := by
  obtain ⟨hstart, hmem⟩ := execFrom_mem h
  obtain ⟨g, hfound, rfl⟩ := Option.map_eq_some_iff.mp hv
  obtain rfl : g.1 = n := by simpa using List.find?_some hfound
  obtain ⟨kept, hgroups, hkept⟩ := keeps_of_mem_ends hr _ _ hmem
  rw [hstart, List.append_nil] at hgroups
  apply hkept g
  rw [← hgroups]
  exact List.mem_of_find?_eq_some hfound

/-- A group that every way passes is set by every match. -/
theorem exists_group {n : ℕ} {r : Regex α} (hr : r.Sets n) {text : List α} {m : Match α}
    (h : r.exec text = some m) : ∃ v, m.group n = some v := by
  obtain ⟨g, hg, hn⟩ := List.mem_map.mp (mem_keys_of_sets hr _ _ (execFrom_mem h).2)
  have hfound : (m.stop.groups.find? (·.1 == n)).isSome :=
    List.find?_isSome.mpr ⟨g, hg, by simpa using hn⟩
  obtain ⟨found, hfound⟩ := Option.isSome_iff_exists.mp hfound
  exact ⟨found.2, by rw [Match.group, Cursor.group, hfound, Option.map_some]⟩

/-- The match at the start of a text is the one of a search. -/
theorem exec_of_leaves {r : Regex α} {text rest : List α} {groups : List (ℕ × List α)}
    (h : Leaves r ⟨[], text, []⟩ rest groups) :
    ∃ m, r.exec text = some m ∧ m.stop.groups = groups := by
  obtain ⟨t, ht, -, hgroups⟩ := h
  rw [First] at ht
  refine ⟨⟨⟨[], text, []⟩, t⟩, ?_, hgroups⟩
  cases text with
  | nil => rw [exec, execFrom, ht, Option.map_some]
  | cons c rest => rw [exec, execFrom, ht]

end Regex

end AgentSkeptic.Support

import Mathlib.Data.List.TakeWhile
import Mathlib.Data.List.Sort
import Mathlib.Tactic.Common

/-!
# JavaScript string operations

The string built-ins that the modelled code relies on: `String.prototype.trim`
and the comparison by UTF-16 code units that `<`, `>` and the default
`Array.prototype.sort` use.  A string is a Lean `String`, so unpaired
surrogates do not occur.
-/

namespace AgentSkeptic.Support

/-- A property of every character of a text, as it is computed. -/
theorem forall_mem_of_all {p : Char → Prop} [DecidablePred p] {text : List Char}
    (h : text.all (fun c => p c) = true) : ∀ c ∈ text, p c := by
  intro c hc
  exact of_decide_eq_true (List.all_eq_true.mp h c hc)

/-! ## White space and `trim` -/

/-- The code points that `trim` removes: WhiteSpace and LineTerminator. -/
def isJsWhitespace (c : Char) : Bool :=
  let n := c.toNat
  (9 ≤ n && n ≤ 13) || n == 0x20 || n == 0xA0 || n == 0x1680 ||
    (0x2000 ≤ n && n ≤ 0x200A) || n == 0x2028 || n == 0x2029 ||
    n == 0x202F || n == 0x205F || n == 0x3000 || n == 0xFEFF

/-- `trim` on the list of characters. -/
def trimChars (cs : List Char) : List Char :=
  ((cs.dropWhile isJsWhitespace).reverse.dropWhile isJsWhitespace).reverse

/-- `String.prototype.trim`. -/
def jsTrim (s : String) : String := String.ofList (trimChars s.toList)

theorem trimChars_eq_nil_iff (cs : List Char) :
    trimChars cs = [] ↔ ∀ c ∈ cs, isJsWhitespace c = true := by
  rw [trimChars, List.reverse_eq_nil_iff, List.dropWhile_eq_nil_iff]
  constructor
  · intro h c hc
    rw [← List.takeWhile_append_dropWhile (p := isJsWhitespace) (l := cs)] at hc
    rcases List.mem_append.mp hc with htake | hdrop
    · exact List.mem_takeWhile_imp htake
    · exact h c (List.mem_reverse.mpr hdrop)
  · intro h c hc
    exact h c ((List.dropWhile_sublist _).mem (List.mem_reverse.mp hc))

theorem jsTrim_eq_empty_iff (s : String) :
    jsTrim s = "" ↔ ∀ c ∈ s.toList, isJsWhitespace c = true := by
  rw [← trimChars_eq_nil_iff, jsTrim]
  exact String.ofList_eq_empty_iff

/-- A string with a character that is not white space is not blank. -/
theorem jsTrim_ne_empty {s : String} {c : Char} (hc : c ∈ s.toList)
    (hvisible : isJsWhitespace c = false) : jsTrim s ≠ "" := by
  intro h
  rw [(jsTrim_eq_empty_iff s).mp h c hc] at hvisible
  exact Bool.noConfusion hvisible

theorem dropWhile_eq_self_of_visible {cs : List Char}
    (h : ∀ c ∈ cs, isJsWhitespace c = false) :
    cs.dropWhile isJsWhitespace = cs := by
  cases cs with
  | nil => rfl
  | cons c cs => simp [h c (by simp)]

/-- Trimming takes white space off the front of a text that starts and ends visibly. -/
theorem trimChars_append {spaces text : List Char}
    (hspaces : ∀ c ∈ spaces, isJsWhitespace c = true)
    (hfirst : ∀ c ∈ text.head?, isJsWhitespace c = false)
    (hlast : ∀ c ∈ text.getLast?, isJsWhitespace c = false) :
    trimChars (spaces ++ text) = text := by
  have hfront : (spaces ++ text).dropWhile isJsWhitespace = text := by
    rw [List.dropWhile_append_of_pos hspaces]
    cases text with
    | nil => rfl
    | cons c text => simp [hfirst c rfl]
  have hback : text.reverse.dropWhile isJsWhitespace = text.reverse := by
    rw [List.getLast?_eq_head?_reverse] at hlast
    cases hreverse : text.reverse with
    | nil => rfl
    | cons c rest =>
        rw [hreverse] at hlast
        simp [hlast c rfl]
  rw [trimChars, hfront, hback, List.reverse_reverse]

/-- A string without white space is its own trim. -/
theorem jsTrim_of_visible {s : String}
    (h : ∀ c ∈ s.toList, isJsWhitespace c = false) : jsTrim s = s := by
  rw [jsTrim, trimChars, dropWhile_eq_self_of_visible h,
    dropWhile_eq_self_of_visible (by simpa using h), List.reverse_reverse,
    String.ofList_toList]

/-! ## UTF-16 order -/

/-- The UTF-16 code units of one code point. -/
def utf16Char (c : Char) : List ℕ :=
  if c.toNat < 0x10000 then [c.toNat]
  else
    [0xD800 + (c.toNat - 0x10000) / 0x400, 0xDC00 + (c.toNat - 0x10000) % 0x400]

/-- The UTF-16 code units of a string. -/
def utf16 (s : String) : List ℕ := s.toList.flatMap utf16Char

/-- Lexicographic `≤` on code units. -/
def codeUnitsLe : List ℕ → List ℕ → Bool
  | [], _ => true
  | _ :: _, [] => false
  | a :: as, b :: bs => a < b || (a == b && codeUnitsLe as bs)

/-- `a <= b` on JavaScript strings. -/
def utf16Le (a b : String) : Bool := codeUnitsLe (utf16 a) (utf16 b)

/-- The default `Array.prototype.sort` on strings. -/
def sortUtf16 (xs : List String) : List String := xs.mergeSort utf16Le

theorem codeUnitsLe_total (as bs : List ℕ) :
    (codeUnitsLe as bs || codeUnitsLe bs as) = true := by
  induction as generalizing bs with
  | nil => simp [codeUnitsLe]
  | cons a as ih =>
      cases bs with
      | nil => simp [codeUnitsLe]
      | cons b bs =>
          have htail := ih bs
          rcases lt_trichotomy a b with hab | rfl | hab
          · simp [codeUnitsLe, hab]
          · simpa [codeUnitsLe] using htail
          · simp [codeUnitsLe, hab]

theorem codeUnitsLe_trans {as bs cs : List ℕ}
    (hab : codeUnitsLe as bs = true) (hbc : codeUnitsLe bs cs = true) :
    codeUnitsLe as cs = true := by
  induction as generalizing bs cs with
  | nil => simp [codeUnitsLe]
  | cons a as ih =>
      cases bs with
      | nil => simp [codeUnitsLe] at hab
      | cons b bs =>
          cases cs with
          | nil => simp [codeUnitsLe] at hbc
          | cons c cs =>
              simp only [codeUnitsLe, Bool.or_eq_true, decide_eq_true_eq,
                Bool.and_eq_true, beq_iff_eq] at hab hbc ⊢
              rcases hab with hab | ⟨rfl, hab⟩
              · rcases hbc with hbc | ⟨rfl, -⟩
                · exact Or.inl (hab.trans hbc)
                · exact Or.inl hab
              · rcases hbc with hbc | ⟨rfl, hbc⟩
                · exact Or.inl hbc
                · exact Or.inr ⟨rfl, ih hab hbc⟩

theorem codeUnitsLe_antisymm {as bs : List ℕ}
    (hab : codeUnitsLe as bs = true) (hba : codeUnitsLe bs as = true) :
    as = bs := by
  induction as generalizing bs with
  | nil =>
      cases bs with
      | nil => rfl
      | cons b bs => simp [codeUnitsLe] at hba
  | cons a as ih =>
      cases bs with
      | nil => simp [codeUnitsLe] at hab
      | cons b bs =>
          simp only [codeUnitsLe, Bool.or_eq_true, decide_eq_true_eq,
            Bool.and_eq_true, beq_iff_eq] at hab hba
          rcases hab with hlt | ⟨rfl, hab⟩
          · rcases hba with hgt | ⟨heq, -⟩
            · exact absurd hgt (lt_asymm hlt)
            · exact absurd heq (ne_of_gt hlt)
          · rcases hba with hgt | ⟨-, hba⟩
            · exact absurd hgt (lt_irrefl a)
            · rw [ih hab hba]

theorem utf16Le_total (a b : String) : (utf16Le a b || utf16Le b a) = true :=
  codeUnitsLe_total _ _

theorem utf16Le_trans {a b c : String} (hab : utf16Le a b = true)
    (hbc : utf16Le b c = true) : utf16Le a c = true :=
  codeUnitsLe_trans hab hbc

/-- A character is no surrogate. -/
theorem toNat_ranges (c : Char) :
    c.toNat < 0xD800 ∨ 0xDFFF < c.toNat ∧ c.toNat < 0x110000 := c.valid

/-- The first character of a text can be read off its code units. -/
theorem utf16Char_append_inj {c d : Char} {us vs : List ℕ}
    (h : utf16Char c ++ us = utf16Char d ++ vs) : c = d ∧ us = vs := by
  have hc := toNat_ranges c
  have hd := toNat_ranges d
  unfold utf16Char at h
  split_ifs at h with hcs hds hds
  · obtain ⟨hunit, hrest⟩ := List.cons.inj h
    exact ⟨Char.toNat_inj.mp hunit, hrest⟩
  · have hunit := (List.cons.inj h).1
    omega
  · have hunit := (List.cons.inj h).1
    omega
  · obtain ⟨hhigh, htail⟩ := List.cons.inj h
    obtain ⟨hlow, hrest⟩ := List.cons.inj htail
    have hpoint : c.toNat = d.toNat := by omega
    exact ⟨Char.toNat_inj.mp hpoint, hrest⟩

theorem flatMap_utf16Char_injective {cs ds : List Char}
    (h : cs.flatMap utf16Char = ds.flatMap utf16Char) : cs = ds := by
  have hne : ∀ c : Char, utf16Char c ≠ [] := by
    intro c
    unfold utf16Char
    split_ifs
    · exact List.cons_ne_nil _ _
    · exact List.cons_ne_nil _ _
  induction cs generalizing ds with
  | nil =>
      cases ds with
      | nil => rfl
      | cons d ds =>
          have hnil := (List.append_eq_nil_iff.mp h.symm).1
          exact absurd hnil (hne d)
  | cons c cs ih =>
      cases ds with
      | nil =>
          have hnil := (List.append_eq_nil_iff.mp h).1
          exact absurd hnil (hne c)
      | cons d ds =>
          obtain ⟨rfl, hrest⟩ := utf16Char_append_inj h
          rw [ih hrest]

theorem utf16_injective : Function.Injective utf16 := by
  intro a b h
  exact String.toList_inj.mp (flatMap_utf16Char_injective h)

theorem utf16Le_antisymm {a b : String} (hab : utf16Le a b = true)
    (hba : utf16Le b a = true) : a = b :=
  utf16_injective (codeUnitsLe_antisymm hab hba)

theorem pairwise_sortUtf16 (xs : List String) :
    (sortUtf16 xs).Pairwise fun a b => utf16Le a b = true := by
  unfold sortUtf16
  apply List.pairwise_mergeSort
  · intro a b c hab hbc
    exact utf16Le_trans hab hbc
  · exact utf16Le_total

/-- The sort depends only on which strings there are, and how often. -/
theorem sortUtf16_eq_of_perm {xs ys : List String} (h : xs.Perm ys) :
    sortUtf16 xs = sortUtf16 ys := by
  have hperm : (sortUtf16 xs).Perm (sortUtf16 ys) :=
    ((List.mergeSort_perm _ _).trans h).trans (List.mergeSort_perm _ _).symm
  refine List.Perm.eq_of_pairwise ?_ (pairwise_sortUtf16 xs)
    (pairwise_sortUtf16 ys) hperm
  intro a b _ _ hab hba
  exact utf16Le_antisymm hab hba

end AgentSkeptic.Support

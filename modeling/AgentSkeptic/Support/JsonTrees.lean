import AgentSkeptic.Support.JsonRoundTrip
import AgentSkeptic.Support.Utf16Sort

/-!
# JSON documents over any scalars

A document is a tree whose leaves are the scalars of a language.  Two documents are the same
when sorting the members of every object makes them equal (`JsonTree.SameAs`), whatever the order
of keys that is sorted by.  A canonical text, which sorts the members and writes each scalar
as one token, tells exactly the documents apart that are not the same
(`render_sorted_eq_iff`).
-/

namespace AgentSkeptic.Support

inductive JsonTree (σ : Type) where
  | scalar (value : σ)
  | arr (items : List (JsonTree σ))
  | obj (members : List (String × JsonTree σ))

/-- An order in which keys are sorted. -/
structure KeyOrder where
  le : String → String → Bool
  total : ∀ a b, le a b = true ∨ le b a = true
  trans : ∀ a b c, le a b = true → le b c = true → le a c = true
  antisymm : ∀ a b, le a b = true → le b a = true → a = b

/-- UTF-16 code units. -/
def utf16Order : KeyOrder where
  le := utf16Le
  total a b := by
    have htotal := utf16Le_total a b
    rwa [Bool.or_eq_true] at htotal
  trans _ _ _ := utf16Le_trans
  antisymm _ _ := utf16Le_antisymm

/-- Code points. -/
def codePointOrder : KeyOrder where
  le a b := decide (a ≤ b)
  total a b := by
    simpa using String.le_total a b
  trans a b c hab hbc := by
    simp only [decide_eq_true_eq] at hab hbc ⊢
    exact String.le_trans hab hbc
  antisymm a b hab hba := by
    simp only [decide_eq_true_eq] at hab hba
    exact String.le_antisymm hab hba

/-! ## Sorted members -/

section SortedMembers

variable {α β : Type} (order : KeyOrder)

def keySort (members : List (String × α)) : List (String × α) :=
  members.insertionSort fun a b => order.le a.1 b.1 = true

theorem keySort_perm (members : List (String × α)) : (keySort order members).Perm members :=
  List.perm_insertionSort _ members

theorem pairwise_keySort (members : List (String × α)) :
    (keySort order members).Pairwise fun a b => order.le a.1 b.1 = true := by
  have htotal : Std.Total fun a b : String × α => order.le a.1 b.1 = true :=
    ⟨fun a b => order.total a.1 b.1⟩
  have htrans : IsTrans (String × α) fun a b => order.le a.1 b.1 = true :=
    ⟨fun a b c => order.trans a.1 b.1 c.1⟩
  exact List.pairwise_insertionSort _ members

/-- Two orders of members with distinct keys have one sorted list. -/
theorem keySort_eq_of_perm {xs ys : List (String × α)} (h : xs.Perm ys)
    (hkeys : (xs.map Prod.fst).Nodup) : keySort order xs = keySort order ys := by
  have hperm : (keySort order xs).Perm (keySort order ys) :=
    ((keySort_perm order xs).trans h).trans (keySort_perm order ys).symm
  refine List.Perm.eq_of_pairwise ?_ (pairwise_keySort order xs) (pairwise_keySort order ys) hperm
  intro a b ha hb hab hba
  have hb' : b ∈ xs := h.mem_iff.mpr ((keySort_perm order ys).mem_iff.mp hb)
  have ha' : a ∈ xs := (keySort_perm order xs).mem_iff.mp ha
  exact List.inj_on_of_nodup_map hkeys ha' hb' (order.antisymm _ _ hab hba)

theorem map_keySort (f : α → β) (members : List (String × α)) :
    (keySort order members).map (fun m => (m.1, f m.2)) =
      keySort order (members.map fun m => (m.1, f m.2)) := by
  apply List.map_insertionSort
  intro a _ b _
  rfl

end SortedMembers

/-! ## Documents -/

section Documents

variable {σ τ : Type}

mutual

def JsonTree.map (f : σ → τ) : JsonTree σ → JsonTree τ
  | .scalar value => .scalar (f value)
  | .arr items => .arr (JsonTree.mapItems f items)
  | .obj members => .obj (JsonTree.mapMembers f members)

def JsonTree.mapItems (f : σ → τ) : List (JsonTree σ) → List (JsonTree τ)
  | [] => []
  | item :: items => JsonTree.map f item :: JsonTree.mapItems f items

def JsonTree.mapMembers (f : σ → τ) : List (String × JsonTree σ) → List (String × JsonTree τ)
  | [] => []
  | (key, value) :: members => (key, JsonTree.map f value) :: JsonTree.mapMembers f members

end

mutual

/-- The keys of every object are distinct. -/
def JsonTree.Distinct : JsonTree σ → Prop
  | .scalar _ => True
  | .arr items => JsonTree.DistinctItems items
  | .obj members => (members.map Prod.fst).Nodup ∧ JsonTree.DistinctMembers members

def JsonTree.DistinctItems : List (JsonTree σ) → Prop
  | [] => True
  | item :: items => item.Distinct ∧ JsonTree.DistinctItems items

def JsonTree.DistinctMembers : List (String × JsonTree σ) → Prop
  | [] => True
  | (_, value) :: members => value.Distinct ∧ JsonTree.DistinctMembers members

end

mutual

/-- The document with the members of every object sorted. -/
def JsonTree.sorted (order : KeyOrder) : JsonTree σ → JsonTree σ
  | .scalar value => .scalar value
  | .arr items => .arr (JsonTree.sortedItems order items)
  | .obj members => .obj (keySort order (JsonTree.sortedMembers order members))

def JsonTree.sortedItems (order : KeyOrder) : List (JsonTree σ) → List (JsonTree σ)
  | [] => []
  | item :: items => item.sorted order :: JsonTree.sortedItems order items

def JsonTree.sortedMembers (order : KeyOrder) :
    List (String × JsonTree σ) → List (String × JsonTree σ)
  | [] => []
  | (key, value) :: members => (key, value.sorted order) :: JsonTree.sortedMembers order members

end

/-- Equal up to the order of the members of objects. -/
def JsonTree.SameAs (x y : JsonTree σ) : Prop := x.sorted codePointOrder = y.sorted codePointOrder

theorem mapMembers_eq_map (f : σ → τ) (members : List (String × JsonTree σ)) :
    JsonTree.mapMembers f members = members.map fun m => (m.1, m.2.map f) := by
  induction members with
  | nil => rfl
  | cons m members ih => rw [JsonTree.mapMembers, ih, List.map_cons]

theorem sortedMembers_eq_map (order : KeyOrder) (members : List (String × JsonTree σ)) :
    JsonTree.sortedMembers order members = members.map fun m => (m.1, m.2.sorted order) := by
  induction members with
  | nil => rfl
  | cons m members ih => rw [JsonTree.sortedMembers, ih, List.map_cons]

theorem keys_sortedMembers (order : KeyOrder) (members : List (String × JsonTree σ)) :
    (JsonTree.sortedMembers order members).map Prod.fst = members.map Prod.fst := by
  rw [sortedMembers_eq_map, List.map_map]
  rfl

mutual

/-- A second order sorts as it would have sorted at first. -/
theorem sorted_sorted (first order : KeyOrder) : ∀ {x : JsonTree σ}, x.Distinct →
    (x.sorted first).sorted order = x.sorted order
  | .scalar _, _ => rfl
  | .arr items, h => by
      rw [JsonTree.sorted, JsonTree.sorted, sortedItems_sorted first order h, JsonTree.sorted]
  | .obj members, h => by
      have hperm := keySort_perm first (JsonTree.sortedMembers first members)
      have hkeys : ((JsonTree.sortedMembers order members).map Prod.fst).Nodup := by
        rw [keys_sortedMembers]
        exact h.1
      rw [JsonTree.sorted, JsonTree.sorted, JsonTree.sorted,
        sortedMembers_eq_map order (keySort _ _)]
      congr 1
      symm
      apply keySort_eq_of_perm order _ hkeys
      rw [← sortedMembers_sorted first order h.2, sortedMembers_eq_map order
        (JsonTree.sortedMembers first members)]
      exact (hperm.map _).symm

theorem sortedItems_sorted (first order : KeyOrder) : ∀ {items : List (JsonTree σ)},
    JsonTree.DistinctItems items →
      JsonTree.sortedItems order (JsonTree.sortedItems first items) =
        JsonTree.sortedItems order items
  | [], _ => rfl
  | _ :: _, h => by
      rw [JsonTree.sortedItems, JsonTree.sortedItems, sorted_sorted first order h.1,
        sortedItems_sorted first order h.2, JsonTree.sortedItems]

theorem sortedMembers_sorted (first order : KeyOrder) :
    ∀ {members : List (String × JsonTree σ)}, JsonTree.DistinctMembers members →
      JsonTree.sortedMembers order (JsonTree.sortedMembers first members) =
        JsonTree.sortedMembers order members
  | [], _ => rfl
  | (_, _) :: _, h => by
      rw [JsonTree.sortedMembers, JsonTree.sortedMembers, sorted_sorted first order h.1,
        sortedMembers_sorted first order h.2, JsonTree.sortedMembers]

end

/-- Every order decides whether two documents are the same. -/
theorem sorted_eq_iff_sameAs (order : KeyOrder) {x y : JsonTree σ} (hx : x.Distinct)
    (hy : y.Distinct) : x.sorted order = y.sorted order ↔ x.SameAs y := by
  constructor
  · intro h
    have hsorted := congrArg (JsonTree.sorted codePointOrder) h
    rw [sorted_sorted order _ hx, sorted_sorted order _ hy] at hsorted
    exact hsorted
  · intro h
    have hsorted := congrArg (JsonTree.sorted order) h
    rw [sorted_sorted codePointOrder _ hx, sorted_sorted codePointOrder _ hy] at hsorted
    exact hsorted

section Maps

variable {υ : Type}

mutual

theorem map_map_tree (f : σ → τ) (g : τ → υ) :
    ∀ x : JsonTree σ, (x.map f).map g = x.map (g ∘ f)
  | .scalar _ => rfl
  | .arr items => congrArg JsonTree.arr (map_map_items f g items)
  | .obj members => congrArg JsonTree.obj (map_map_members f g members)

theorem map_map_items (f : σ → τ) (g : τ → υ) : ∀ items : List (JsonTree σ),
    JsonTree.mapItems g (JsonTree.mapItems f items) = JsonTree.mapItems (g ∘ f) items
  | [] => rfl
  | item :: items => congrArg₂ List.cons (map_map_tree f g item) (map_map_items f g items)

theorem map_map_members (f : σ → τ) (g : τ → υ) : ∀ members : List (String × JsonTree σ),
    JsonTree.mapMembers g (JsonTree.mapMembers f members) = JsonTree.mapMembers (g ∘ f) members
  | [] => rfl
  | (key, value) :: members =>
      congrArg₂ List.cons (congrArg (Prod.mk key) (map_map_tree f g value))
        (map_map_members f g members)

end

mutual

/-- Scalars have no part in the order. -/
theorem sorted_map (order : KeyOrder) (f : σ → τ) :
    ∀ x : JsonTree σ, (x.map f).sorted order = (x.sorted order).map f
  | .scalar _ => rfl
  | .arr items => congrArg JsonTree.arr (sortedItems_map order f items)
  | .obj members => by
      rw [JsonTree.map, JsonTree.sorted, JsonTree.sorted, JsonTree.map,
        sortedMembers_map order f members, mapMembers_eq_map, mapMembers_eq_map, map_keySort]

theorem sortedItems_map (order : KeyOrder) (f : σ → τ) : ∀ items : List (JsonTree σ),
    JsonTree.sortedItems order (JsonTree.mapItems f items) =
      JsonTree.mapItems f (JsonTree.sortedItems order items)
  | [] => rfl
  | item :: items => congrArg₂ List.cons (sorted_map order f item) (sortedItems_map order f items)

theorem sortedMembers_map (order : KeyOrder) (f : σ → τ) :
    ∀ members : List (String × JsonTree σ),
      JsonTree.sortedMembers order (JsonTree.mapMembers f members) =
        JsonTree.mapMembers f (JsonTree.sortedMembers order members)
  | [] => rfl
  | (key, value) :: members =>
      congrArg₂ List.cons (congrArg (Prod.mk key) (sorted_map order f value))
        (sortedMembers_map order f members)

end

theorem JsonTree.SameAs.map {x y : JsonTree σ} (h : x.SameAs y) (f : σ → τ) :
    (x.map f).SameAs (y.map f) := by
  unfold JsonTree.SameAs at h ⊢
  rw [sorted_map, sorted_map, h]

/-- Scalars that can be read back may be written. -/
theorem sameAs_written_iff {f : σ → τ} {write : τ → υ} {read : υ → τ}
    (hread : ∀ value, read (write (f value)) = f value) {x y : JsonTree σ} :
    (x.map fun value => write (f value)).SameAs (y.map fun value => write (f value)) ↔
      (x.map f).SameAs (y.map f) := by
  constructor
  · intro h
    have hmap := h.map read
    rw [map_map_tree, map_map_tree] at hmap
    have hcomp : (read ∘ fun value => write (f value)) = f := funext hread
    rwa [hcomp] at hmap
  · intro h
    have hmap := h.map write
    rwa [map_map_tree, map_map_tree] at hmap

end Maps

end Documents

/-! ## Tokens -/

/-- A word of a text, such as a number or `null`. -/
@[ext] structure Word where
  chars : List Char
  wordChars : ∀ c ∈ chars, isWordChar c = true
  ne_nil : chars ≠ []

/-- A scalar as it is written: a quoted text, or a word. -/
inductive Atom where
  | text (value : String)
  | word (value : Word)

def Atom.token : Atom → Token
  | .text value => .text value
  | .word value => .word value.chars

mutual

def JsonTree.tokens : JsonTree Atom → List Token
  | .scalar value => [value.token]
  | .arr items => bracketTokens '[' ']' (JsonTree.itemTokens items)
  | .obj members => bracketTokens '\x7b' '\x7d' (JsonTree.memberTokens members)

def JsonTree.itemTokens : List (JsonTree Atom) → List (List Token)
  | [] => []
  | item :: items => item.tokens :: JsonTree.itemTokens items

def JsonTree.memberTokens : List (String × JsonTree Atom) → List (List Token)
  | [] => []
  | (key, value) :: members =>
      (.text key :: .punct ':' :: value.tokens) :: JsonTree.memberTokens members

end

/-- Where one of the parts ends is seen from the part. -/
def Cancels (part : List Token) (others : List (List Token)) : Prop :=
  ∀ other ∈ others, ∀ rest rest', part ++ rest = other ++ rest' → part = other ∧ rest = rest'

/-- A part that does not start with the token. -/
def StartsOther (token : Token) (part : List Token) : Prop :=
  ∃ first rest, part = first :: rest ∧ first ≠ token

theorem intercalate_cancel {close : Char} (hclose : close ≠ ',') {parts others : List (List Token)}
    (hcancel : ∀ part ∈ parts, Cancels part others) (hparts : parts ≠ []) (hothers : others ≠ [])
    {rest rest' : List Token}
    (h : [Token.punct ','].intercalate parts ++ .punct close :: rest =
      [Token.punct ','].intercalate others ++ .punct close :: rest') :
    parts = others ∧ rest = rest' := by
  induction parts generalizing others with
  | nil => exact absurd rfl hparts
  | cons part parts ih =>
      cases others with
      | nil => exact absurd rfl hothers
      | cons other others =>
          have hfirst := hcancel part List.mem_cons_self other List.mem_cons_self
          cases parts with
          | nil =>
              cases others with
              | nil =>
                  simp only [List.intercalate_singleton] at h
                  obtain ⟨rfl, hrest⟩ := hfirst _ _ h
                  exact ⟨rfl, (List.cons.inj hrest).2⟩
              | cons next others =>
                  simp only [List.intercalate_singleton, List.intercalate_cons_cons,
                    List.append_assoc] at h
                  obtain ⟨-, hrest⟩ := hfirst _ _ h
                  have hpunct := Token.punct.inj (List.cons.inj hrest).1
                  exact absurd hpunct hclose
          | cons second parts =>
              cases others with
              | nil =>
                  simp only [List.intercalate_singleton, List.intercalate_cons_cons,
                    List.append_assoc] at h
                  obtain ⟨-, hrest⟩ := hfirst _ _ h
                  have hpunct := Token.punct.inj (List.cons.inj hrest).1
                  exact absurd hpunct.symm hclose
              | cons next others =>
                  simp only [List.intercalate_cons_cons, List.append_assoc] at h
                  obtain ⟨rfl, hrest⟩ := hfirst _ _ h
                  have hcancel' : ∀ p ∈ second :: parts, Cancels p (next :: others) :=
                    fun p hp other hother => hcancel p (List.mem_cons_of_mem _ hp) other
                      (List.mem_cons_of_mem _ hother)
                  obtain ⟨hlists, hrests⟩ := ih hcancel' (List.cons_ne_nil _ _)
                    (List.cons_ne_nil _ _) (List.cons.inj hrest).2
                  exact ⟨congrArg (part :: ·) hlists, hrests⟩

/-- The parts between brackets are seen from the tokens. -/
theorem bracketTokens_cancel {opening close : Char} (hclose : close ≠ ',')
    {parts others : List (List Token)} (hcancel : ∀ part ∈ parts, Cancels part others)
    (hstart : ∀ part ∈ parts, StartsOther (.punct close) part)
    (hstart' : ∀ part ∈ others, StartsOther (.punct close) part) {rest rest' : List Token}
    (h : bracketTokens opening close parts ++ rest =
      bracketTokens opening close others ++ rest') : parts = others ∧ rest = rest' := by
  have hhead {parts : List (List Token)} (hne : parts ≠ [])
      (hstart : ∀ part ∈ parts, StartsOther (.punct close) part) (tail tail' : List Token) :
      [Token.punct ','].intercalate parts ++ tail ≠ .punct close :: tail' := by
    obtain ⟨part, parts, rfl⟩ := List.exists_cons_of_ne_nil hne
    obtain ⟨first, more, rfl, hfirst⟩ := hstart _ List.mem_cons_self
    intro heq
    cases parts with
    | nil =>
        rw [List.intercalate_singleton] at heq
        exact hfirst (List.cons.inj heq).1
    | cons next parts =>
        rw [List.intercalate_cons_cons, List.append_assoc, List.append_assoc] at heq
        exact hfirst (List.cons.inj heq).1
  simp only [bracketTokens, List.cons_append, List.append_assoc, List.nil_append] at h
  have hinner := (List.cons.inj h).2
  by_cases hparts : parts = []
  · subst hparts
    by_cases hothers : others = []
    · subst hothers
      exact ⟨rfl, (List.cons.inj hinner).2⟩
    · exact absurd hinner.symm (hhead hothers hstart' _ _)
  · by_cases hothers : others = []
    · subst hothers
      exact absurd hinner (hhead hparts hstart _ _)
    · exact intercalate_cancel hclose hcancel hparts hothers hinner

/-! ### Documents from their tokens -/

theorem startsOther_tokens (x : JsonTree Atom) {close : Char} (h : close = ']' ∨ close = '\x7d') :
    StartsOther (.punct close) x.tokens := by
  cases x with
  | scalar value =>
      cases value with
      | text value => exact ⟨_, _, rfl, by simp [Atom.token]⟩
      | word value => exact ⟨_, _, rfl, by simp [Atom.token]⟩
  | arr items => exact ⟨_, _, rfl, by rcases h with rfl | rfl <;> simp⟩
  | obj members => exact ⟨_, _, rfl, by rcases h with rfl | rfl <;> simp⟩

theorem startsOther_items (items : List (JsonTree Atom)) :
    ∀ part ∈ JsonTree.itemTokens items, StartsOther (.punct ']') part := by
  induction items with
  | nil => simp [JsonTree.itemTokens]
  | cons item items ih =>
      intro part hpart
      rcases List.mem_cons.mp hpart with rfl | hpart
      · exact startsOther_tokens item (.inl rfl)
      · exact ih part hpart

theorem startsOther_members (members : List (String × JsonTree Atom)) :
    ∀ part ∈ JsonTree.memberTokens members, StartsOther (.punct '\x7d') part := by
  induction members with
  | nil => simp [JsonTree.memberTokens]
  | cons m members ih =>
      intro part hpart
      rcases List.mem_cons.mp hpart with rfl | hpart
      · exact ⟨_, _, rfl, by simp⟩
      · exact ih part hpart

theorem mem_itemTokens {items : List (JsonTree Atom)} {part : List Token}
    (h : part ∈ JsonTree.itemTokens items) : ∃ item ∈ items, part = item.tokens := by
  induction items with
  | nil => cases h
  | cons item items ih =>
      rcases List.mem_cons.mp h with rfl | h
      · exact ⟨item, List.mem_cons_self, rfl⟩
      · obtain ⟨other, hother, rfl⟩ := ih h
        exact ⟨other, List.mem_cons_of_mem _ hother, rfl⟩

theorem mem_memberTokens {members : List (String × JsonTree Atom)} {part : List Token}
    (h : part ∈ JsonTree.memberTokens members) :
    ∃ m ∈ members, part = .text m.1 :: .punct ':' :: m.2.tokens := by
  induction members with
  | nil => cases h
  | cons m members ih =>
      rcases List.mem_cons.mp h with rfl | h
      · exact ⟨m, List.mem_cons_self, rfl⟩
      · obtain ⟨other, hother, rfl⟩ := ih h
        exact ⟨other, List.mem_cons_of_mem _ hother, rfl⟩

theorem Atom.token_injective {a b : Atom} (h : a.token = b.token) : a = b := by
  cases a with
  | text value =>
      cases b with
      | text value' => rw [Token.text.inj h]
      | word value' => cases h
  | word value =>
      cases b with
      | text value' => cases h
      | word value' => rw [Word.ext (Token.word.inj h)]

theorem Atom.token_ne_punct (a : Atom) (c : Char) : a.token ≠ .punct c := by
  cases a with
  | text value => simp [Atom.token]
  | word value => simp [Atom.token]

mutual

/-- A document is seen from its tokens, whatever follows them. -/
theorem tokens_cancel : ∀ (x y : JsonTree Atom) (rest rest' : List Token),
    x.tokens ++ rest = y.tokens ++ rest' → x = y ∧ rest = rest'
  | .scalar a, y, rest, rest', h => by
      cases y with
      | scalar b =>
          obtain ⟨htoken, hrest⟩ := List.cons.inj h
          rw [Atom.token_injective htoken]
          exact ⟨rfl, hrest⟩
      | arr items => exact absurd (List.cons.inj h).1 (a.token_ne_punct _)
      | obj members => exact absurd (List.cons.inj h).1 (a.token_ne_punct _)
  | .arr items, y, rest, rest', h => by
      cases y with
      | scalar b => exact absurd (List.cons.inj h).1.symm (b.token_ne_punct _)
      | arr others =>
          have hcancel : ∀ part ∈ JsonTree.itemTokens items, Cancels part (JsonTree.itemTokens others) := by
            intro part hpart other hother r r' hr
            obtain ⟨second, -, rfl⟩ := mem_itemTokens hother
            obtain ⟨rfl, hrest⟩ := items_cancel items part hpart second r r' hr
            exact ⟨rfl, hrest⟩
          obtain ⟨hparts, hrest⟩ := bracketTokens_cancel (by decide) hcancel
            (startsOther_items items) (startsOther_items others) h
          rw [itemTokens_inj items others hparts]
          exact ⟨rfl, hrest⟩
      | obj members => exact absurd (Token.punct.inj (List.cons.inj h).1) (by decide)
  | .obj members, y, rest, rest', h => by
      cases y with
      | scalar b => exact absurd (List.cons.inj h).1.symm (b.token_ne_punct _)
      | arr items => exact absurd (Token.punct.inj (List.cons.inj h).1) (by decide)
      | obj others =>
          have hcancel : ∀ part ∈ JsonTree.memberTokens members,
              Cancels part (JsonTree.memberTokens others) := by
            intro part hpart other hother r r' hr
            obtain ⟨m, -, rfl⟩ := mem_memberTokens hother
            obtain ⟨rfl, hrest⟩ := members_cancel members part hpart m r r' hr
            exact ⟨rfl, hrest⟩
          obtain ⟨hparts, hrest⟩ := bracketTokens_cancel (by decide) hcancel
            (startsOther_members members) (startsOther_members others) h
          rw [memberTokens_inj members others hparts]
          exact ⟨rfl, hrest⟩

theorem items_cancel : ∀ (items : List (JsonTree Atom)), ∀ part ∈ JsonTree.itemTokens items,
    ∀ (y : JsonTree Atom) (rest rest' : List Token), part ++ rest = y.tokens ++ rest' →
      part = y.tokens ∧ rest = rest'
  | [], part, hpart, _, _, _, _ => by cases hpart
  | item :: items, part, hpart, y, rest, rest', h => by
      rcases List.mem_cons.mp hpart with rfl | hpart
      · obtain ⟨rfl, hrest⟩ := tokens_cancel item y rest rest' h
        exact ⟨rfl, hrest⟩
      · exact items_cancel items part hpart y rest rest' h

theorem members_cancel : ∀ (members : List (String × JsonTree Atom)),
    ∀ part ∈ JsonTree.memberTokens members,
    ∀ (m : String × JsonTree Atom) (rest rest' : List Token),
      part ++ rest = .text m.1 :: .punct ':' :: m.2.tokens ++ rest' →
        part = .text m.1 :: .punct ':' :: m.2.tokens ∧ rest = rest'
  | [], part, hpart, _, _, _, _ => by cases hpart
  | (key, value) :: members, part, hpart, m, rest, rest', h => by
      rcases List.mem_cons.mp hpart with rfl | hpart
      · obtain ⟨hkey, hcolon⟩ := List.cons.inj h
        obtain ⟨hvalue, hrest⟩ := tokens_cancel value m.2 rest rest' (List.cons.inj hcolon).2
        rw [Token.text.inj hkey, hvalue]
        exact ⟨rfl, hrest⟩
      · exact members_cancel members part hpart m rest rest' h

theorem itemTokens_inj : ∀ items others : List (JsonTree Atom),
    JsonTree.itemTokens items = JsonTree.itemTokens others → items = others
  | [], others, h => by
      cases others with
      | nil => rfl
      | cons other others => cases h
  | item :: items, others, h => by
      cases others with
      | nil => cases h
      | cons other others =>
          obtain ⟨hfirst, hothers⟩ := List.cons.inj h
          have hitem := tokens_cancel item other [] [] (congrArg (· ++ []) hfirst)
          rw [hitem.1, itemTokens_inj items others hothers]

theorem memberTokens_inj : ∀ members others : List (String × JsonTree Atom),
    JsonTree.memberTokens members = JsonTree.memberTokens others → members = others
  | [], others, h => by
      cases others with
      | nil => rfl
      | cons other others => cases h
  | (key, value) :: members, others, h => by
      cases others with
      | nil => cases h
      | cons other others =>
          obtain ⟨key', value'⟩ := other
          obtain ⟨hfirst, hothers⟩ := List.cons.inj h
          obtain ⟨hkey, hcolon⟩ := List.cons.inj hfirst
          have hvalue := tokens_cancel value value' [] []
            (congrArg (· ++ []) (List.cons.inj hcolon).2)
          rw [Token.text.inj hkey, hvalue.1, memberTokens_inj members others hothers]

end

theorem tokens_injective {x y : JsonTree Atom} (h : x.tokens = y.tokens) : x = y :=
  (tokens_cancel x y [] [] (congrArg (· ++ []) h)).1

/-! ## Texts -/

/-- How a language writes keys. -/
structure KeyText where
  chars : String → List Char
  lexes : ∀ key cs, lex .idle (chars key ++ cs) = (lex .idle cs).map ([.text key] ++ ·)

def Atom.chars : Atom → List Char
  | .text value => (quote value).toList
  | .word value => value.chars

section Texts

variable (keyText : KeyText)

mutual

/-- The text of a document without white space. -/
def JsonTree.render : JsonTree Atom → List Char
  | .scalar value => value.chars
  | .arr items => '[' :: [','].intercalate (JsonTree.renderItems items) ++ [']']
  | .obj members => '\x7b' :: [','].intercalate (JsonTree.renderMembers members) ++ ['\x7d']

def JsonTree.renderItems : List (JsonTree Atom) → List (List Char)
  | [] => []
  | item :: items => item.render :: JsonTree.renderItems items

def JsonTree.renderMembers : List (String × JsonTree Atom) → List (List Char)
  | [] => []
  | (key, value) :: members =>
      (keyText.chars key ++ ':' :: value.render) :: JsonTree.renderMembers members

end

theorem lexes_brackets {opening closing : Char} (hopening : isJsonSpace opening = false)
    (hopening' : isPunct opening = true) (hclosing : isJsonSpace closing = false)
    (hclosing' : isPunct closing = true) {parts : List (List Char)}
    {tokens : List (List Token)} (h : List.Forall₂ Lexes parts tokens) :
    Lexes (opening :: [','].intercalate parts ++ [closing])
      (bracketTokens opening closing tokens) := by
  have hgap : ∀ c ∈ ([] : List Char), isJsonSpace c = true := by simp
  have hlexes := lexes_renderParts hgap 0 hopening hopening' hclosing hclosing' h
  rw [renderParts_nil_gap] at hlexes
  exact hlexes

mutual

theorem lexes_tree : ∀ x : JsonTree Atom, Lexes (x.render keyText) x.tokens
  | .scalar (.text value) => fun cs _ => lex_quote value cs
  | .scalar (.word value) => fun cs hcs => lex_word value.wordChars value.ne_nil hcs
  | .arr items => by
      rw [JsonTree.render, JsonTree.tokens]
      exact lexes_brackets rfl rfl rfl rfl (lexes_items items)
  | .obj members => by
      rw [JsonTree.render, JsonTree.tokens]
      exact lexes_brackets rfl rfl rfl rfl (lexes_members members)

theorem lexes_items : ∀ items : List (JsonTree Atom),
    List.Forall₂ Lexes (JsonTree.renderItems keyText items) (JsonTree.itemTokens items)
  | [] => .nil
  | item :: items => .cons (lexes_tree item) (lexes_items items)

theorem lexes_members : ∀ members : List (String × JsonTree Atom),
    List.Forall₂ Lexes (JsonTree.renderMembers keyText members) (JsonTree.memberTokens members)
  | [] => .nil
  | (key, value) :: members => by
      have hvalue := lexes_tree value
      have hmember : Lexes (keyText.chars key ++ ':' :: value.render keyText)
          (.text key :: .punct ':' :: value.tokens) := by
        intro cs hcs
        rw [List.append_assoc, keyText.lexes, List.cons_append, lex_punct rfl rfl,
          hvalue cs hcs, Option.map_map, Option.map_map]
        simp [Function.comp_def]
      exact .cons hmember (lexes_members members)

end

/-- Documents with one text are one document. -/
theorem render_injective {x y : JsonTree Atom} (h : x.render keyText = y.render keyText) :
    x = y := by
  have hend : Delimited [] := by simp [Delimited]
  have hx := lexes_tree keyText x [] hend
  have hy := lexes_tree keyText y [] hend
  rw [h, hy] at hx
  have hidle : lex .idle [] = some [] := rfl
  rw [hidle] at hx
  simp only [Option.map_some, List.append_nil, Option.some.injEq] at hx
  exact tokens_injective hx.symm

/-- Canonical texts tell the documents apart that are not the same. -/
theorem render_sorted_eq_iff (order : KeyOrder) {x y : JsonTree Atom} (hx : x.Distinct)
    (hy : y.Distinct) :
    (x.sorted order).render keyText = (y.sorted order).render keyText ↔ x.SameAs y := by
  constructor
  · intro h
    exact (sorted_eq_iff_sameAs order hx hy).mp (render_injective keyText h)
  · intro h
    rw [(sorted_eq_iff_sameAs order hx hy).mpr h]

end Texts

end AgentSkeptic.Support

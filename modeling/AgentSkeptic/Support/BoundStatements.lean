import AgentSkeptic.Support.SqlText

/-!
# Statements that bind values in order

The placeholders of such a statement are numbered in the order of its values, each stands in
the equality with its own column, and the names are told apart from the fixed words
(`lexSql_binds`).
-/

namespace AgentSkeptic.Support


/-- A column, whose it is, and the value it is compared with. -/
structure SqlBinding where
  owner : SqlOwner
  column : String
  value : String

def SqlBinding.part (b : SqlBinding) : SqlPart := .bound b.owner b.column b.value

/-- The tokens of an equality with the `n`-th placeholder. -/
def boundTokens (style : PlaceholderStyle) (n : ℕ) (b : SqlBinding) : List SqlToken :=
  ownerTokens b.owner ++
    [.symbol '.', .name b.column, .symbol '=', .placeholder (style.number n)]

/-- The bindings of a statement. -/
def partBindings : List SqlPart → List SqlBinding
  | [] => []
  | .bound owner column value :: parts => ⟨owner, column, value⟩ :: partBindings parts
  | .text _ :: parts => partBindings parts
  | .names _ :: parts => partBindings parts

def ownerNames : SqlOwner → List String
  | .table path => path
  | .correlation _ => []

/-- The names of a statement. -/
def partNames : List SqlPart → List String
  | [] => []
  | .text _ :: parts => partNames parts
  | .names path :: parts => path ++ partNames parts
  | .bound owner column _ :: parts => ownerNames owner ++ column :: partNames parts

/-- Whether a token is neither a name nor a placeholder. -/
def isFixed (token : SqlToken) : Bool :=
  (name? token).isNone && (placeholderNumber? token).isNone

/-- Tokens that bind values in order, `n` being the first placeholder, and that have the
given names beside the fixed tokens. -/
structure Binds (style : PlaceholderStyle) (fixed : List SqlToken) (names : List String)
    (bindings : List SqlBinding) (n : ℕ) (tokens : List SqlToken) : Prop where
  numbered : placeholders tokens = (List.range' n bindings.length).map style.number
  bound : ∀ i binding, bindings[i]? = some binding → ∃ before after,
    tokens = before ++ boundTokens style (n + i) binding ++ after ∧
      (placeholders before).length = i
  named : namesIn tokens = names
  apart : ∀ token ∈ tokens, isFixed token = true → token ∈ fixed

section Bindings

variable {style : PlaceholderStyle} {fixed : List SqlToken} {names : List String}
  {bindings : List SqlBinding} {n : ℕ} {tokens : List SqlToken}

theorem placeholders_append (tokens rest : List SqlToken) :
    placeholders (tokens ++ rest) = placeholders tokens ++ placeholders rest :=
  List.filterMap_append

theorem namesIn_append (tokens rest : List SqlToken) :
    namesIn (tokens ++ rest) = namesIn tokens ++ namesIn rest :=
  List.filterMap_append

/-- Tokens without placeholders in front of the others. -/
theorem Binds.before (h : Binds style fixed names bindings n tokens) {first : List SqlToken}
    (hplaceholders : placeholders first = [])
    (hfixed : ∀ token ∈ first, isFixed token = true → token ∈ fixed) :
    Binds style fixed (namesIn first ++ names) bindings n (first ++ tokens) where
  numbered := by
    rw [placeholders_append, hplaceholders, List.nil_append, h.numbered]
  bound := by
    intro i binding hi
    obtain ⟨before, after, htokens, hlength⟩ := h.bound i binding hi
    refine ⟨first ++ before, after, ?_, ?_⟩
    · simp [htokens]
    · rw [placeholders_append, hplaceholders, List.nil_append, hlength]
  named := by
    rw [namesIn_append, h.named]
  apart := by
    intro token htoken
    rcases List.mem_append.mp htoken with hfirst | hrest
    · exact hfixed token hfirst
    · exact h.apart token hrest

/-- An equality in front of the others. -/
theorem Binds.cons (h : Binds style fixed names bindings (n + 1) tokens)
    {binding : SqlBinding} (howner : placeholders (ownerTokens binding.owner) = [])
    (hfixed : ∀ token ∈ boundTokens style n binding, isFixed token = true → token ∈ fixed) :
    Binds style fixed (namesIn (ownerTokens binding.owner) ++ binding.column :: names)
      (binding :: bindings) n (boundTokens style n binding ++ tokens) where
  numbered := by
    rw [placeholders_append, h.numbered, boundTokens, placeholders_append, howner,
      List.length_cons, List.range'_succ, List.map_cons]
    rfl
  bound := by
    intro i found hi
    cases i with
    | zero =>
        rw [List.getElem?_cons_zero] at hi
        obtain rfl := Option.some.inj hi
        exact ⟨[], tokens, rfl, rfl⟩
    | succ i =>
        rw [List.getElem?_cons_succ] at hi
        obtain ⟨before, after, htokens, hlength⟩ := h.bound i found hi
        have hnumber : n + (i + 1) = n + 1 + i := by omega
        refine ⟨boundTokens style n binding ++ before, after, ?_, ?_⟩
        · simp [htokens, hnumber]
        · have hone : placeholders (boundTokens style n binding) = [style.number n] := by
            rw [boundTokens, placeholders_append, howner]
            rfl
          rw [placeholders_append, hone, List.singleton_append, List.length_cons, hlength]
  named := by
    rw [namesIn_append, boundTokens, namesIn_append, h.named, List.append_assoc]
    rfl
  apart := by
    intro token htoken
    rcases List.mem_append.mp htoken with hfirst | hrest
    · exact hfixed token hfirst
    · exact h.apart token hrest

/-! ### Parts -/

theorem placeholders_pathTokens (path : List String) : placeholders (pathTokens path) = [] := by
  induction path with
  | nil => rfl
  | cons id rest ih =>
      cases rest with
      | nil => rfl
      | cons next rest => exact ih

theorem namesIn_pathTokens (path : List String) : namesIn (pathTokens path) = path := by
  induction path with
  | nil => rfl
  | cons id rest ih =>
      cases rest with
      | nil => rfl
      | cons next rest => exact congrArg (id :: ·) ih

theorem fixed_pathTokens {path : List String} {token : SqlToken}
    (h : token ∈ pathTokens path) (hfixed : isFixed token = true) : token = .symbol '.' := by
  induction path with
  | nil => cases h
  | cons id rest ih =>
      cases rest with
      | nil =>
          obtain rfl := List.mem_singleton.mp h
          cases hfixed
      | cons next rest =>
          rcases List.mem_cons.mp h with rfl | h
          · cases hfixed
          · rcases List.mem_cons.mp h with rfl | h
            · rfl
            · exact ih h

/-- Texts and correlation names have only fixed tokens. -/
def PartFixed (fixed : List SqlToken) : SqlPart → Prop
  | .text chars => ∀ token ∈ textTokens chars.toList, token ∈ fixed
  | .names _ => True
  | .bound (.table _) _ _ => True
  | .bound (.correlation name) _ _ => ∀ token ∈ textTokens name.toList, token ∈ fixed

/-- Fixed tokens have neither placeholders nor names. -/
theorem fixed_words (hall : fixed.all isFixed = true) {words : List SqlToken}
    (hfixed : ∀ token ∈ words, token ∈ fixed) :
    placeholders words = [] ∧ namesIn words = [] := by
  rw [List.all_eq_true] at hall
  have hboth : ∀ token ∈ words, name? token = none ∧ placeholderNumber? token = none := by
    intro token htoken
    simpa [isFixed] using hall token (hfixed token htoken)
  constructor
  · exact List.filterMap_eq_nil_iff.mpr fun token h => (hboth token h).2
  · exact List.filterMap_eq_nil_iff.mpr fun token h => (hboth token h).1

/-- The parts of a statement bind their values in order. -/
theorem binds_partTokens {parts : List SqlPart} (hall : fixed.all isFixed = true)
    (hpoint : .symbol '.' ∈ fixed) (hequals : .symbol '=' ∈ fixed)
    (hparts : ∀ part ∈ parts, PartFixed fixed part) :
    Binds style fixed (partNames parts) (partBindings parts) n (partTokens style n parts) := by
  induction parts generalizing n with
  | nil =>
      exact ⟨rfl, fun i binding hi => by simp [partBindings] at hi, rfl, by simp [partTokens]⟩
  | cons part parts ih =>
      have hrest : ∀ p ∈ parts, PartFixed fixed p :=
        fun p hp => hparts p (List.mem_cons_of_mem _ hp)
      have hpart := hparts part List.mem_cons_self
      cases part with
      | text chars =>
          obtain ⟨hplaceholders, hnames⟩ := fixed_words hall hpart
          have hbinds := (@ih n hrest).before hplaceholders fun token h _ => hpart token h
          rw [hnames] at hbinds
          exact hbinds
      | names path =>
          have hbinds := (@ih n hrest).before (placeholders_pathTokens path)
            fun token h hfixed => fixed_pathTokens h hfixed ▸ hpoint
          rw [namesIn_pathTokens] at hbinds
          exact hbinds
      | bound owner column value =>
          have hequality {tokens : List SqlToken}
              (hfixed : ∀ token ∈ tokens, isFixed token = true → token ∈ fixed) :
              ∀ token ∈ tokens ++ [.symbol '.', .name column, .symbol '=',
                .placeholder (style.number n)], isFixed token = true → token ∈ fixed := by
            intro token htoken htrue
            rcases List.mem_append.mp htoken with h | h
            · exact hfixed token h htrue
            · simp only [List.mem_cons, List.not_mem_nil, or_false] at h
              rcases h with rfl | rfl | rfl | rfl
              · exact hpoint
              · cases htrue
              · exact hequals
              · cases htrue
          have hsplit : partTokens style n (.bound owner column value :: parts) =
              boundTokens style n ⟨owner, column, value⟩ ++ partTokens style (n + 1) parts := by
            simp [partTokens, boundTokens]
          rw [hsplit, partBindings, partNames]
          cases owner with
          | table path =>
              have hfirst := @hequality (pathTokens path)
                fun token h hfixed => fixed_pathTokens h hfixed ▸ hpoint
              have hbinds := @Binds.cons style fixed _ _ n _ (@ih (n + 1) hrest)
                ⟨.table path, column, value⟩ (placeholders_pathTokens path) hfirst
              rw [ownerTokens, namesIn_pathTokens] at hbinds
              exact hbinds
          | correlation name =>
              obtain ⟨hplaceholders, hnames⟩ := fixed_words hall hpart
              have hfirst := @hequality (textTokens name.toList) fun token h _ => hpart token h
              have hbinds := @Binds.cons style fixed _ _ n _ (@ih (n + 1) hrest)
                ⟨.correlation name, column, value⟩ hplaceholders hfirst
              rw [ownerTokens, hnames] at hbinds
              exact hbinds

/-- A spaced statement is read as tokens that bind its values in order. -/
theorem lexSql_binds {q : Quoting} {parts : List SqlPart} (hall : fixed.all isFixed = true)
    (hpoint : .symbol '.' ∈ fixed) (hequals : .symbol '=' ∈ fixed)
    (hparts : ∀ part ∈ parts, PartFixed fixed part) (hspaced : spaced true parts = true) :
    ∃ tokens, lexSql q (render q style 1 parts) = some tokens ∧
      Binds style fixed (partNames parts) (partBindings parts) 1 tokens :=
  ⟨_, lexSql_render style hspaced, binds_partTokens hall hpoint hequals hparts⟩

end Bindings

/-! ## Joined parts -/

/-- Items with a fixed text between them. -/
def joinedParts (separator : String) : List (List SqlPart) → List SqlPart
  | [] => []
  | item :: items => item ++ items.flatMap (.text separator :: ·)

section Joined

variable {q : Quoting} {style : PlaceholderStyle}

theorem partBindings_append (parts rest : List SqlPart) :
    partBindings (parts ++ rest) = partBindings parts ++ partBindings rest := by
  induction parts with
  | nil => rfl
  | cons part parts ih =>
      cases part with
      | text chars => exact ih
      | names path => exact ih
      | bound owner column value => exact congrArg (_ :: ·) ih

theorem partNames_append (parts rest : List SqlPart) :
    partNames (parts ++ rest) = partNames parts ++ partNames rest := by
  induction parts with
  | nil => rfl
  | cons part parts ih =>
      cases part with
      | text chars => exact ih
      | names path => simp [partNames, ih]
      | bound owner column value => simp [partNames, ih]

theorem render_append (parts rest : List SqlPart) (n : ℕ) :
    render q style n (parts ++ rest) =
      render q style n parts ++ render q style (n + (partBindings parts).length) rest := by
  induction parts generalizing n with
  | nil => rfl
  | cons part parts ih =>
      cases part with
      | text chars => simp [render, partBindings, ih]
      | names path => simp [render, partBindings, ih]
      | bound owner column value =>
          have hnumber : n + ((partBindings parts).length + 1) =
              n + 1 + (partBindings parts).length := by omega
          simp [render, partBindings, ih, hnumber]

/-- The texts of items, the placeholders being numbered through. -/
def renderAll (q : Quoting) (style : PlaceholderStyle) (n : ℕ) :
    List (List SqlPart) → List (List Char)
  | [] => []
  | item :: items =>
      render q style n item :: renderAll q style (n + (partBindings item).length) items

theorem intercalate_cons_eq_flatMap (separator item : List Char) (items : List (List Char)) :
    separator.intercalate (item :: items) = item ++ items.flatMap (separator ++ ·) := by
  induction items generalizing item with
  | nil => simp [List.intercalate_singleton]
  | cons next items ih =>
      rw [List.intercalate_cons_cons, ih, List.flatMap_cons]
      simp only [List.append_assoc]

theorem render_joinedParts (separator : String) (items : List (List SqlPart)) (n : ℕ) :
    render q style n (joinedParts separator items) =
      separator.toList.intercalate (renderAll q style n items) := by
  have htail (n : ℕ) (items : List (List SqlPart)) :
      render q style n (items.flatMap (.text separator :: ·)) =
        (renderAll q style n items).flatMap (separator.toList ++ ·) := by
    induction items generalizing n with
    | nil => rfl
    | cons item items ih =>
        rw [List.flatMap_cons, render_append, ih, renderAll, List.flatMap_cons]
        rfl
  cases items with
  | nil => rfl
  | cons item items =>
      rw [joinedParts, render_append, htail, renderAll, intercalate_cons_eq_flatMap]

/-- Items that may follow a fixed text, and that a separated text may follow. -/
def IsItem (parts : List SqlPart) : Prop :=
  ∀ rest, spaced false rest = true → spaced true (parts ++ rest) = true

theorem spaced_of_false {rest : List SqlPart} (h : spaced false rest = true) (ready : Bool) :
    spaced ready rest = true := by
  cases rest with
  | nil => rfl
  | cons part rest =>
      cases part with
      | text chars =>
          simp only [spaced, Bool.false_or, Bool.and_eq_true, Bool.or_eq_true] at h ⊢
          exact ⟨⟨h.1.1, .inr h.1.2⟩, h.2⟩
      | names path => cases h
      | bound owner column value => cases h

/-- A text that separates items. -/
def isSeparatorText (chars : List Char) : Bool :=
  chars.all isSqlPlain && startsSeparated chars && endsIdle chars

theorem spaced_joinedParts {separator : List Char} {items : List (List SqlPart)}
    (hseparator : isSeparatorText separator = true) (hitems : ∀ item ∈ items, IsItem item)
    {rest : List SqlPart} (hrest : spaced false rest = true) :
    spaced true (joinedParts (String.ofList separator) items ++ rest) = true := by
  simp only [isSeparatorText, Bool.and_eq_true] at hseparator
  obtain ⟨⟨hplain, hstart⟩, hend⟩ := hseparator
  have htail (items : List (List SqlPart)) (hitems : ∀ item ∈ items, IsItem item) :
      spaced false (items.flatMap (.text (String.ofList separator) :: ·) ++ rest) = true := by
    induction items with
    | nil => exact hrest
    | cons item items ih =>
        have hitem := hitems item List.mem_cons_self
        have hnext := hitem _ (ih fun other h => hitems other (List.mem_cons_of_mem _ h))
        rw [List.flatMap_cons, List.append_assoc, List.cons_append]
        simp only [spaced, String.toList_ofList, Bool.and_eq_true, Bool.false_or]
        rw [hend]
        exact ⟨⟨hplain, hstart⟩, hnext⟩
  cases items with
  | nil => exact spaced_of_false hrest true
  | cons item items =>
      have hitem := hitems item List.mem_cons_self
      rw [joinedParts, List.append_assoc]
      exact hitem _ (htail items fun other h => hitems other (List.mem_cons_of_mem _ h))

theorem spaced_text {chars : List Char} {rest : List SqlPart}
    (hchars : (chars.all isSqlPlain && endsIdle chars) = true)
    (hrest : spaced true rest = true) :
    spaced true (.text (String.ofList chars) :: rest) = true := by
  rw [Bool.and_eq_true] at hchars
  simp only [spaced, String.toList_ofList, Bool.true_or, Bool.and_true, Bool.and_eq_true]
  rw [hchars.2]
  exact ⟨hchars.1, hrest⟩

/-- A statement's first text, when it ends in a word. -/
theorem spaced_firstWord {chars : List Char} {rest : List SqlPart}
    (hchars : chars.all isSqlPlain = true) (hrest : spaced false rest = true) :
    spaced true (.text (String.ofList chars) :: rest) = true := by
  simp only [spaced, String.toList_ofList, Bool.true_or, Bool.and_true, Bool.and_eq_true]
  exact ⟨hchars, spaced_of_false hrest _⟩

theorem spaced_separator {chars : List Char} {rest : List SqlPart}
    (hchars : isSeparatorText chars = true) (hrest : spaced true rest = true) :
    spaced false (.text (String.ofList chars) :: rest) = true := by
  simp only [isSeparatorText, Bool.and_eq_true] at hchars
  simp only [spaced, String.toList_ofList, Bool.false_or, Bool.and_eq_true]
  rw [hchars.2]
  exact ⟨hchars.1, hrest⟩

/-- A text that ends in a word. -/
theorem spaced_word {chars : List Char} {rest : List SqlPart}
    (hchars : (chars.all isSqlPlain && startsSeparated chars) = true)
    (hrest : spaced false rest = true) :
    spaced false (.text (String.ofList chars) :: rest) = true := by
  simp only [spaced, String.toList_ofList, Bool.false_or, Bool.and_eq_true] at hchars ⊢
  exact ⟨hchars, spaced_of_false hrest _⟩

theorem spaced_names {path : List String} {rest : List SqlPart} (hne : path ≠ [])
    (hrest : spaced false rest = true) : spaced true (.names path :: rest) = true := by
  simp [spaced, hne, hrest]

theorem isItem_names {path : List String} (hne : path ≠ []) : IsItem [.names path] := by
  intro rest hrest
  exact spaced_names hne hrest

theorem isItem_bound {binding : SqlBinding} (howner : isSpacedOwner binding.owner = true) :
    IsItem [binding.part] := by
  intro rest hrest
  simp [SqlBinding.part, spaced, howner, hrest]

theorem mem_joinedParts {separator : String} {items : List (List SqlPart)} {part : SqlPart}
    (h : part ∈ joinedParts separator items) :
    part = .text separator ∨ ∃ item ∈ items, part ∈ item := by
  cases items with
  | nil => cases h
  | cons item items =>
      rcases List.mem_append.mp h with h | h
      · exact .inr ⟨item, List.mem_cons_self, h⟩
      · obtain ⟨other, hother, hpart⟩ := List.mem_flatMap.mp h
        rcases List.mem_cons.mp hpart with rfl | hpart
        · exact .inl rfl
        · exact .inr ⟨other, List.mem_cons_of_mem _ hother, hpart⟩

theorem joinedParts_eq_nil {separator : String} {items : List (List SqlPart)}
    (h : ∀ item ∈ items, item ≠ []) : joinedParts separator items = [] ↔ items = [] := by
  cases items with
  | nil => simp [joinedParts]
  | cons item items =>
      have hitem := h item List.mem_cons_self
      simp [joinedParts, hitem]

theorem partFixed_joinedParts {fixed : List SqlToken} {separator : String}
    {items : List (List SqlPart)} (hseparator : PartFixed fixed (.text separator))
    (hitems : ∀ item ∈ items, ∀ part ∈ item, PartFixed fixed part) :
    ∀ part ∈ joinedParts separator items, PartFixed fixed part := by
  intro part hpart
  rcases mem_joinedParts hpart with rfl | ⟨item, hitem, hpart⟩
  · exact hseparator
  · exact hitems item hitem part hpart

theorem partBindings_joinedParts (separator : String) (items : List (List SqlPart)) :
    partBindings (joinedParts separator items) = items.flatMap partBindings := by
  have htail (items : List (List SqlPart)) :
      partBindings (items.flatMap (.text separator :: ·)) = items.flatMap partBindings := by
    induction items with
    | nil => rfl
    | cons item items ih =>
        rw [List.flatMap_cons, partBindings_append, ih, List.flatMap_cons]
        rfl
  cases items with
  | nil => rfl
  | cons item items => rw [joinedParts, partBindings_append, htail, List.flatMap_cons]

theorem partNames_joinedParts (separator : String) (items : List (List SqlPart)) :
    partNames (joinedParts separator items) = items.flatMap partNames := by
  have htail (items : List (List SqlPart)) :
      partNames (items.flatMap (.text separator :: ·)) = items.flatMap partNames := by
    induction items with
    | nil => rfl
    | cons item items ih =>
        rw [List.flatMap_cons, partNames_append, ih, List.flatMap_cons]
        rfl
  cases items with
  | nil => rfl
  | cons item items => rw [joinedParts, partNames_append, htail, List.flatMap_cons]

/-- Equalities as items. -/
def boundItems {α : Type} (binding : α → SqlBinding) (items : List α) : List (List SqlPart) :=
  items.map fun item => [(binding item).part]

/-- Equalities are numbered one by one. -/
theorem renderAll_boundItems {α : Type} (binding : α → SqlBinding) (items : List α) (n : ℕ) :
    renderAll q style n (boundItems binding items) =
      (items.zipIdx n).map fun item => ownerChars q (binding item.1).owner ++
        '.' :: (quoteName q (binding item.1).column ++ (' ' :: '=' :: ' ' :: style.text item.2)) := by
  induction items generalizing n with
  | nil => rfl
  | cons item items ih =>
      rw [boundItems, List.map_cons, renderAll, List.zipIdx_cons, List.map_cons]
      have hitem : render q style n [(binding item).part] = ownerChars q (binding item).owner ++
          '.' :: (quoteName q (binding item).column ++
            (' ' :: '=' :: ' ' :: style.text n)) := by
        simp [SqlBinding.part, render]
      exact congrArg₂ List.cons hitem (ih (n + 1))

theorem partBindings_boundItems {α : Type} (binding : α → SqlBinding) (items : List α) :
    (boundItems binding items).flatMap partBindings = items.map binding := by
  rw [boundItems, List.flatMap_map, List.map_eq_flatMap]
  rfl

theorem partNames_boundItems {α : Type} (binding : α → SqlBinding) (items : List α) :
    (boundItems binding items).flatMap partNames =
      items.flatMap fun item => ownerNames (binding item).owner ++ [(binding item).column] := by
  rw [boundItems, List.flatMap_map]
  rfl

theorem isItem_boundItems {α : Type} {binding : α → SqlBinding}
    (howner : ∀ item, isSpacedOwner (binding item).owner = true) (items : List α) :
    ∀ item ∈ boundItems binding items, IsItem item := by
  intro parts hparts
  obtain ⟨item, -, rfl⟩ := List.mem_map.mp hparts
  exact isItem_bound (howner item)

theorem partFixed_boundItems {α : Type} {fixed : List SqlToken} {binding : α → SqlBinding}
    (hfixed : ∀ item, PartFixed fixed (binding item).part) (items : List α) :
    ∀ item ∈ boundItems binding items, ∀ part ∈ item, PartFixed fixed part := by
  intro parts hparts part hpart
  obtain ⟨item, -, rfl⟩ := List.mem_map.mp hparts
  obtain rfl := List.mem_singleton.mp hpart
  exact hfixed item

/-- Items without values, each with its text. -/
theorem renderAll_free {α : Type} {parts : α → List SqlPart} {chars : α → List Char}
    (hfree : ∀ item, partBindings (parts item) = [])
    (hchars : ∀ item n, render q style n (parts item) = chars item) (items : List α) (n : ℕ) :
    renderAll q style n (items.map parts) = items.map chars := by
  induction items with
  | nil => rfl
  | cons item items ih =>
      rw [List.map_cons, renderAll, hchars, hfree, List.length_nil, Nat.add_zero, ih,
        List.map_cons]

theorem pathChars_snoc {path : List String} (hne : path ≠ []) (id : String) :
    pathChars q (path ++ [id]) = pathChars q path ++ '.' :: quoteName q id := by
  induction path with
  | nil => exact absurd rfl hne
  | cons first rest ih =>
      cases rest with
      | nil => rfl
      | cons next rest =>
          have hrest := ih (List.cons_ne_nil _ _)
          rw [List.cons_append] at hrest ⊢
          rw [List.cons_append, pathChars, hrest, pathChars]
          simp

end Joined

end AgentSkeptic.Support

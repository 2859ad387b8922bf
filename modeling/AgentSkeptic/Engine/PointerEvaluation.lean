import AgentSkeptic.Engine.Params

/-!
# What a JSON pointer selects

RFC 6901 is the reference: tokens are unescaped from left to right, an object answers to
its own members and an array to the canonical indices of its items.  `getPointer` answers
as the reference does unless it asks an object for a name that all objects inherit
(`getPointer_rfc6901_iff`).
-/

namespace AgentSkeptic.Engine

open AgentSkeptic.Support

/-! ## The reference -/

/-- `~0` and `~1`, read from left to right. -/
def unescape : List Char → List Char
  | '~' :: '0' :: rest => '~' :: unescape rest
  | '~' :: '1' :: rest => '/' :: unescape rest
  | c :: rest => c :: unescape rest
  | [] => []

def escapeChar (c : Char) : List Char :=
  if c = '~' then ['~', '0'] else if c = '/' then ['~', '1'] else [c]

def escapeToken (name : String) : List Char := name.toList.flatMap escapeChar

/-- The pointer that asks for one member after the other. -/
def pointerOf (names : List String) : String :=
  String.ofList (names.flatMap fun name => '/' :: escapeToken name)

def referenceTokens (pointer : String) : List String :=
  match pointer.toList with
  | '/' :: rest => (rest.splitOn '/').map fun part => String.ofList (unescape part)
  | _ => []

/-- An own member, or an item of an array. -/
def ownStep (v : Json) (token : String) : Option Json :=
  match v with
  | .arr items => (arrayIndex? token).bind (items[·]?)
  | .obj members => ownMember members token
  | _ => none

def follow (doc : Json) (tokens : List String) : Option Json := tokens.foldlM ownStep doc

/-- What code reads where there may be no value. -/
def valueOrUndefined : Option Json → JsValue
  | some v => .json v
  | none => .undefined

/-! ## Tokens -/

theorem unescape_cons {c : Char} (h : c ≠ '~') (rest : List Char) :
    unescape (c :: rest) = c :: unescape rest := by
  rw [unescape]
  · intro rest' hc _
    exact h hc
  · intro rest' hc _
    exact h hc

theorem unescape_escape (cs : List Char) : unescape (cs.flatMap escapeChar) = cs := by
  induction cs with
  | nil => rfl
  | cons c cs ih =>
      rw [List.flatMap_cons, escapeChar]
      split_ifs with htilde hslash
      · rw [htilde]
        show '~' :: unescape (cs.flatMap escapeChar) = _
        rw [ih]
      · rw [hslash]
        show '/' :: unescape (cs.flatMap escapeChar) = _
        rw [ih]
      · rw [List.singleton_append, unescape_cons htilde, ih]

theorem slash_not_mem_escapeToken (name : String) : '/' ∉ escapeToken name := by
  intro h
  obtain ⟨c, -, hc⟩ := List.mem_flatMap.mp h
  unfold escapeChar at hc
  split_ifs at hc with htilde hslash
  · simp at hc
  · simp at hc
  · exact hslash (List.mem_singleton.mp hc).symm

theorem replaceEscape_cons {digit by_ c : Char} {rest : List Char}
    (h : ¬(c = '~' ∧ rest.head? = some digit)) :
    replaceEscape digit by_ (c :: rest) = c :: replaceEscape digit by_ rest := by
  cases rest with
  | nil => rfl
  | cons next rest =>
      rw [replaceEscape, if_neg]
      rintro ⟨hc, hnext⟩
      exact h ⟨hc, by rw [List.head?_cons, hnext]⟩

theorem replaceEscape_escape (digit by_ : Char) (rest : List Char) :
    replaceEscape digit by_ ('~' :: digit :: rest) = by_ :: replaceEscape digit by_ rest := by
  rw [replaceEscape, if_pos ⟨rfl, rfl⟩]

/-- The first pass writes no digit. -/
theorem head_replaceEscape {rest : List Char}
    (h : (replaceEscape '1' '/' rest).head? = some '0') : rest.head? = some '0' := by
  cases rest with
  | nil => cases h
  | cons c rest =>
      by_cases hescape : c = '~' ∧ rest.head? = some '1'
      · obtain ⟨rfl, hnext⟩ := hescape
        obtain ⟨tail, rfl⟩ := List.head?_eq_some_iff.mp hnext
        rw [replaceEscape_escape] at h
        cases h
      · rw [replaceEscape_cons hescape] at h
        exact h

/-- The two passes of the code unescape as one pass does: what the first one writes is no
part of an escape for the second. -/
theorem pointerToken_eq (part : List Char) :
    pointerToken part = String.ofList (unescape part) := by
  unfold pointerToken
  congr 1
  induction part using unescape.induct with
  | case1 rest ih =>
      have hfirst : replaceEscape '1' '/' ('~' :: '0' :: rest) =
          '~' :: '0' :: replaceEscape '1' '/' rest := by
        rw [replaceEscape_cons (by simp), replaceEscape_cons (by simp)]
      rw [hfirst, replaceEscape_escape, ih, unescape]
  | case2 rest ih =>
      rw [replaceEscape_escape, replaceEscape_cons (by simp), ih, unescape]
  | case3 c rest hzero hone ih =>
      have hfirst : ¬(c = '~' ∧ rest.head? = some '1') := by
        rintro ⟨hc, hnext⟩
        obtain ⟨tail, htail⟩ := List.head?_eq_some_iff.mp hnext
        exact hone tail hc htail
      have hsecond : ¬(c = '~' ∧ (replaceEscape '1' '/' rest).head? = some '0') := by
        rintro ⟨hc, hnext⟩
        obtain ⟨tail, htail⟩ := List.head?_eq_some_iff.mp (head_replaceEscape hnext)
        exact hzero tail hc htail
      rw [replaceEscape_cons hfirst, replaceEscape_cons hsecond, ih, unescape]
      · exact hzero
      · exact hone
  | case4 => rfl

theorem referenceTokens_pointerOf (names : List String) :
    referenceTokens (pointerOf names) = names := by
  cases names with
  | nil => rfl
  | cons name names =>
      have hjoined : ∀ (first : List Char) (rest : List String),
          first ++ (rest.flatMap fun name => '/' :: escapeToken name) =
            ['/'].intercalate (first :: rest.map escapeToken) := by
        intro first rest
        induction rest generalizing first with
        | nil => simp
        | cons next rest ih => simp [List.intercalate_cons_cons, ih]
      have hparts : ∀ part ∈ (name :: names).map escapeToken, '/' ∉ part := by
        intro part hpart
        obtain ⟨n, -, rfl⟩ := List.mem_map.mp hpart
        exact slash_not_mem_escapeToken n
      have htokens : ((name :: names).map escapeToken).map
          (fun part => String.ofList (unescape part)) = name :: names := by
        rw [List.map_map]
        conv_rhs => rw [← List.map_id (name :: names)]
        apply List.map_congr_left
        intro n _
        show String.ofList (unescape (n.toList.flatMap escapeChar)) = n
        rw [unescape_escape, String.ofList_toList]
      rw [referenceTokens, pointerOf, String.toList_ofList, List.flatMap_cons]
      show ((escapeToken name ++ names.flatMap fun name => '/' :: escapeToken name).splitOn
        '/').map (fun part => String.ofList (unescape part)) = name :: names
      rw [hjoined, ← List.map_cons, List.splitOn_intercalate '/' hparts (by simp), htokens]

/-! ## Inherited names -/

/-- What `in` finds in every object. -/
def inheritedNames : List String := "__proto__" :: objectPrototypeNames

/-- The walk comes to an object without an own member of the next name, which all objects
inherit; behind `__proto__` there is one more object. -/
def ReachesInherited (doc : Json) (tokens : List String) : Prop :=
  ∃ before first members, follow doc before = some (.obj members) ∧
    ownMember members first = none ∧ first ∈ inheritedNames ∧
    (tokens = before ++ [first] ∨
      first = "__proto__" ∧ ∃ second ∈ inheritedNames, tokens = before ++ [first, second])

theorem follow_cons (doc : Json) (token : String) (tokens : List String) :
    follow doc (token :: tokens) = (ownStep doc token).bind (follow · tokens) := by
  rw [follow, List.foldlM_cons]
  rfl

/-- A step to an own value. -/
theorem reachesInherited_cons_some {doc next : Json} {token : String} {tokens : List String}
    (hstep : ownStep doc token = some next) :
    ReachesInherited doc (token :: tokens) ↔ ReachesInherited next tokens := by
  constructor
  · rintro ⟨before, first, members, hfollow, hnone, hname, htokens⟩
    cases before with
    | nil =>
        have hdoc : doc = .obj members := Option.some.inj hfollow
        have htoken : token = first := by
          rcases htokens with htokens | ⟨-, _, -, htokens⟩
          · exact (List.cons.inj htokens).1
          · exact (List.cons.inj htokens).1
        rw [hdoc, htoken, ownStep, hnone] at hstep
        cases hstep
    | cons b before =>
        have htoken : token = b := by
          rcases htokens with htokens | ⟨-, _, -, htokens⟩
          · exact (List.cons.inj htokens).1
          · exact (List.cons.inj htokens).1
        subst htoken
        rw [follow_cons, hstep] at hfollow
        refine ⟨before, first, members, hfollow, hnone, hname, ?_⟩
        rcases htokens with htokens | ⟨hproto, second, hsecond, htokens⟩
        · exact .inl (List.cons.inj htokens).2
        · exact .inr ⟨hproto, second, hsecond, (List.cons.inj htokens).2⟩
  · rintro ⟨before, first, members, hfollow, hnone, hname, htokens⟩
    refine ⟨token :: before, first, members, ?_, hnone, hname, ?_⟩
    · rw [follow_cons, hstep]
      exact hfollow
    · rcases htokens with rfl | ⟨hproto, second, hsecond, rfl⟩
      · exact .inl rfl
      · exact .inr ⟨hproto, second, hsecond, rfl⟩

/-- A step to no own value ends the walk. -/
theorem reachesInherited_cons_none {doc : Json} {token : String} {tokens : List String}
    (hstep : ownStep doc token = none) :
    ReachesInherited doc (token :: tokens) ↔
      (∃ members, doc = .obj members) ∧ token ∈ inheritedNames ∧
        (tokens = [] ∨ token = "__proto__" ∧ ∃ second ∈ inheritedNames, tokens = [second]) := by
  constructor
  · rintro ⟨before, first, members, hfollow, hnone, hname, htokens⟩
    cases before with
    | nil =>
        have hdoc : doc = .obj members := Option.some.inj hfollow
        rcases htokens with htokens | ⟨hproto, second, hsecond, htokens⟩
        · obtain ⟨rfl, rfl⟩ := List.cons.inj htokens
          exact ⟨⟨members, hdoc⟩, hname, .inl rfl⟩
        · obtain ⟨rfl, rfl⟩ := List.cons.inj htokens
          exact ⟨⟨members, hdoc⟩, hname, .inr ⟨hproto, second, hsecond, rfl⟩⟩
    | cons b before =>
        have htoken : token = b := by
          rcases htokens with htokens | ⟨-, _, -, htokens⟩
          · exact (List.cons.inj htokens).1
          · exact (List.cons.inj htokens).1
        rw [← htoken, follow_cons, hstep] at hfollow
        cases hfollow
  · rintro ⟨⟨members, rfl⟩, hname, htokens⟩
    refine ⟨[], token, members, rfl, hstep, hname, ?_⟩
    rcases htokens with rfl | ⟨hproto, second, hsecond, rfl⟩
    · exact .inl rfl
    · exact .inr ⟨hproto, second, hsecond, rfl⟩

/-! ## The walk of the code -/

theorem foldl_pointerStep_dead {cur : JsValue} (h : ∀ token, pointerStep cur token = .undefined)
    (token : String) (tokens : List String) :
    (token :: tokens).foldl pointerStep cur = .undefined := by
  rw [List.foldl_cons, h]
  induction tokens with
  | nil => rfl
  | cons next tokens ih => exact ih

theorem pointerStep_own {doc next : Json} {token : String}
    (hstep : ownStep doc token = some next) :
    pointerStep (.json doc) token = .json next := by
  cases doc with
  | arr items =>
      rw [ownStep] at hstep
      rw [pointerStep, hstep]
  | obj members =>
      rw [ownStep] at hstep
      rw [pointerStep, Json.member, hstep]
  | null => cases hstep
  | bool value => cases hstep
  | num value => cases hstep
  | str value => cases hstep

theorem inherited_of_not_mem {token : String} (h : token ∉ inheritedNames) :
    inherited [] token = .undefined := by
  obtain ⟨hproto, hnames⟩ := not_or.mp (mt List.mem_cons.mpr h)
  rw [inherited, if_neg hproto, if_neg (by simpa using hnames)]

theorem inherited_of_mem {token : String} (h : token ∈ objectPrototypeNames) :
    ∃ name, inherited [] token = .builtin name := by
  have hproto : token ≠ "__proto__" := by
    rintro rfl
    exact absurd h (by decide)
  exact ⟨_, by rw [inherited, if_neg hproto, if_pos (.inr h)]⟩

/-- Of `Object.prototype`. -/
theorem foldl_objectPrototype (tokens : List String) :
    tokens.foldl pointerStep .objectPrototype = .undefined ↔
      ¬(tokens = [] ∨ ∃ second ∈ inheritedNames, tokens = [second]) := by
  cases tokens with
  | nil => simp
  | cons token tokens =>
      by_cases hname : token ∈ inheritedNames
      · have hdead : ∀ next, pointerStep (pointerStep .objectPrototype token) next =
            .undefined := by
          intro next
          show pointerStep (JsValue.member .objectPrototype token) next = _
          rw [JsValue.member]
          split_ifs with hproto
          · rfl
          · obtain ⟨name, hbuiltin⟩ := inherited_of_mem
              ((List.mem_cons.mp hname).resolve_left hproto)
            rw [hbuiltin]
            rfl
        cases tokens with
        | nil =>
            apply iff_of_false
            · show JsValue.member .objectPrototype token ≠ .undefined
              rw [JsValue.member]
              split_ifs with hproto
              · simp
              · obtain ⟨name, hbuiltin⟩ := inherited_of_mem
                  ((List.mem_cons.mp hname).resolve_left hproto)
                rw [hbuiltin]
                simp
            · intro h
              exact h (.inr ⟨token, hname, rfl⟩)
        | cons next tokens =>
            apply iff_of_true
            · rw [List.foldl_cons]
              exact foldl_pointerStep_dead hdead next tokens
            · simp
      · have hundefined : pointerStep .objectPrototype token = .undefined := by
          show JsValue.member .objectPrototype token = _
          have hproto : token ≠ "__proto__" := by
            rintro rfl
            exact hname (List.mem_cons_self)
          rw [JsValue.member, if_neg hproto, inherited_of_not_mem hname]
        apply iff_of_true
        · rw [List.foldl_cons, hundefined]
          cases tokens with
          | nil => rfl
          | cons next tokens => exact foldl_pointerStep_dead (fun _ => rfl) next tokens
        · rintro (h | ⟨second, hsecond, h⟩)
          · cases h
          · obtain ⟨rfl, -⟩ := List.cons.inj h
            exact hname hsecond

/-- The walk agrees with the reference unless it comes to an inherited name. -/
theorem foldl_pointerStep_iff (doc : Json) (tokens : List String) :
    tokens.foldl pointerStep (.json doc) = valueOrUndefined (follow doc tokens) ↔
      ¬ReachesInherited doc tokens := by
  induction tokens generalizing doc with
  | nil =>
      apply iff_of_true rfl
      rintro ⟨before, first, members, -, -, -, htokens | ⟨-, second, -, htokens⟩⟩
      · simp at htokens
      · simp at htokens
  | cons token tokens ih =>
      rw [List.foldl_cons, follow_cons]
      cases hstep : ownStep doc token with
      | some next =>
          rw [pointerStep_own hstep, reachesInherited_cons_some hstep]
          exact ih next
      | none =>
          rw [reachesInherited_cons_none hstep]
          show tokens.foldl pointerStep (pointerStep (.json doc) token) = .undefined ↔ _
          by_cases hobj : ∃ members, doc = .obj members
          · obtain ⟨members, rfl⟩ := hobj
            have hmember : pointerStep (.json (.obj members)) token = inherited [] token := by
              rw [ownStep] at hstep
              rw [pointerStep, Json.member, hstep]
            rw [hmember]
            by_cases hproto : token = "__proto__"
            · subst hproto
              have hinherited : inherited [] "__proto__" = .objectPrototype := rfl
              rw [hinherited, foldl_objectPrototype]
              simp [inheritedNames]
            · by_cases hname : token ∈ objectPrototypeNames
              · obtain ⟨name, hbuiltin⟩ := inherited_of_mem hname
                rw [hbuiltin]
                cases tokens with
                | nil => simp [inheritedNames, hname]
                | cons next tokens =>
                    apply iff_of_true (foldl_pointerStep_dead (fun _ => rfl) next tokens)
                    simp [hproto]
              · have hnone : token ∉ inheritedNames := by
                  rw [inheritedNames, List.mem_cons]
                  tauto
                rw [inherited_of_not_mem hnone]
                apply iff_of_true
                · cases tokens with
                  | nil => rfl
                  | cons next tokens => exact foldl_pointerStep_dead (fun _ => rfl) next tokens
                · tauto
          · have hundefined : pointerStep (.json doc) token = .undefined := by
              cases doc with
              | obj members => exact absurd ⟨members, rfl⟩ hobj
              | arr items =>
                  rw [ownStep] at hstep
                  rw [pointerStep, hstep]
              | null => rfl
              | bool value => rfl
              | num value => rfl
              | str value => rfl
            rw [hundefined]
            apply iff_of_true
            · cases tokens with
              | nil => rfl
              | cons next tokens => exact foldl_pointerStep_dead (fun _ => rfl) next tokens
            · tauto

theorem getPointer_eq_foldl (doc : Json) {pointer : String}
    (h : pointer = "" ∨ pointer.toList.head? = some '/') :
    getPointer doc pointer =
      .ok ((referenceTokens pointer).foldl pointerStep (.json doc)) := by
  rcases h with rfl | hslash
  · rfl
  · obtain ⟨rest, hrest⟩ := List.head?_eq_some_iff.mp hslash
    have htokens : (rest.splitOn '/').map pointerToken =
        (rest.splitOn '/').map fun part => String.ofList (unescape part) := by
      apply List.map_congr_left
      intro part _
      exact pointerToken_eq part
    rw [getPointer, referenceTokens, hrest]
    show Except.ok (((rest.splitOn '/').map pointerToken).foldl pointerStep (.json doc)) = _
    rw [htokens]
    rfl

theorem pointerOf_valid (names : List String) :
    pointerOf names = "" ∨ (pointerOf names).toList.head? = some '/' := by
  cases names with
  | nil => exact .inl rfl
  | cons name names =>
      right
      rw [pointerOf, String.toList_ofList]
      rfl

/-- `getPointer` selects what RFC 6901 says, for a pointer and for the escaped names of
members, unless the walk comes to a name that all objects inherit. -/
theorem getPointer_rfc6901_iff (doc : Json) :
    (∀ pointer : String, pointer = "" ∨ pointer.toList.head? = some '/' →
      (getPointer doc pointer = .ok (valueOrUndefined (follow doc (referenceTokens pointer))) ↔
        ¬ReachesInherited doc (referenceTokens pointer))) ∧
    ∀ names : List String,
      getPointer doc (pointerOf names) = .ok (valueOrUndefined (follow doc names)) ↔
        ¬ReachesInherited doc names := by
  have hpointer : ∀ pointer : String, pointer = "" ∨ pointer.toList.head? = some '/' →
      (getPointer doc pointer = .ok (valueOrUndefined (follow doc (referenceTokens pointer))) ↔
        ¬ReachesInherited doc (referenceTokens pointer)) := by
    intro pointer h
    rw [getPointer_eq_foldl doc h, Except.ok.injEq]
    exact foldl_pointerStep_iff doc _
  refine ⟨hpointer, ?_⟩
  intro names
  have hnames := hpointer (pointerOf names) (pointerOf_valid names)
  rwa [referenceTokens_pointerOf] at hnames

theorem getPointer_rfc6901_escaped :
    getPointer (.obj [("a/b", .arr [.null, .str "x"])]) "/a~1b/1" =
        .ok (valueOrUndefined (follow (.obj [("a/b", .arr [.null, .str "x"])])
          (referenceTokens "/a~1b/1"))) ↔
      ¬ReachesInherited (.obj [("a/b", .arr [.null, .str "x"])])
        (referenceTokens "/a~1b/1") :=
  (getPointer_rfc6901_iff (.obj [("a/b", .arr [.null, .str "x"])])).1 "/a~1b/1"
    (.inr (by decide))

/-- The empty object has a constructor. -/
theorem getPointer_finds_inherited :
    follow (.obj []) (referenceTokens "/constructor") = none ∧
      getPointer (.obj []) "/constructor" = .ok (.builtin "Object") := by
  constructor
  · decide +kernel
  · rfl

end AgentSkeptic.Engine

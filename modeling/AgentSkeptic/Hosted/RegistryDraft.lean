import AgentSkeptic.Engine.PointerEvaluation
import AgentSkeptic.Support.InsertionMap
import AgentSkeptic.Support.JsonDecoded
import AgentSkeptic.Support.SortedJson

/-!
# Readiness of a registry draft

`readiness.ts`, `jsonPointer.ts` and `bootstrapArgsMerge.ts` of the website: the arguments
of all tool calls of a bootstrap pack are merged to one document, and a draft is ready if
its pointers have a value there.  A value in the merged document comes from one of the
calls, but nothing says from which: `readyDraft_resolves`.
-/

namespace AgentSkeptic.Hosted

open AgentSkeptic.Support AgentSkeptic.Engine

/-! ## `Number(text)` -/

def radixDigit? (radix : ℕ) (c : Char) : Option ℕ := (hexValue? c).filter (· < radix)

/-- The digits behind `0x`, `0o` or `0b`. -/
def radixLiteral? (radix : ℕ) (digits : List Char) : Option JsNumber := do
  guard (digits ≠ [])
  let values ← digits.mapM (radixDigit? radix)
  pure (.ofDecimal false (values.foldl (fun n d => radix * n + d) 0) 0)

def exponentPart? : List Char → Option ℤ
  | [] => some 0
  | e :: rest => do
      guard (e = 'e' ∨ e = 'E')
      let (minus, digits) := match rest with
        | '-' :: digits => (true, digits)
        | '+' :: digits => (false, digits)
        | _ => (false, rest)
      guard (digits ≠ [] ∧ digits.all Char.isDigit)
      pure (if minus then -(JsNumber.digitsValue digits : ℤ) else JsNumber.digitsValue digits)

/-- A decimal literal behind its sign: digits on one side of the point are enough. -/
def unsignedDecimal? (negative : Bool) (text : List Char) : Option JsNumber := do
  let whole := text.takeWhile Char.isDigit
  let (fraction, rest) := match text.dropWhile Char.isDigit with
    | '.' :: rest => (rest.takeWhile Char.isDigit, rest.dropWhile Char.isDigit)
    | rest => ([], rest)
  guard (whole ≠ [] ∨ fraction ≠ [])
  let exponent ← exponentPart? rest
  pure (.ofDecimal negative (JsNumber.digitsValue (whole ++ fraction))
    (exponent - fraction.length))

def signedDecimal? (negative : Bool) (text : List Char) : Option JsNumber :=
  if text = "Infinity".toList then some (.infinity negative)
  else unsignedDecimal? negative text

/-- `Number(text)`; `none` for `NaN`. -/
def numberOfText (text : String) : Option JsNumber :=
  match trimChars text.toList with
  | [] => some (.int 0)
  | '0' :: 'x' :: digits | '0' :: 'X' :: digits => radixLiteral? 16 digits
  | '0' :: 'o' :: digits | '0' :: 'O' :: digits => radixLiteral? 8 digits
  | '0' :: 'b' :: digits | '0' :: 'B' :: digits => radixLiteral? 2 digits
  | '-' :: rest => signedDecimal? true rest
  | '+' :: rest => signedDecimal? false rest
  | cs => signedDecimal? false cs

/-- The index of an array that `Number(text)` is; a fraction is none. -/
def numberIndex (text : String) : Option ℕ :=
  match numberOfText text with
  | some (.int i) => if i < 0 then none else some i.toNat
  | _ => none

example : ["", " 7 ", "0x1f", "1e2", ".5", "01", "seven"].map numberIndex =
    [some 0, some 7, some 31, some 100, none, some 1, none] := by
  decide +kernel

/-! ## The merged document -/

/-- A value of the merged document.  Parsed values are shared, and an object that
`deepMergeObjects` made has the prototype that its `__proto__` was set to. -/
inductive MergeValue where
  | parsed (value : Json)
  | merged (prototype : MergeValue) (members : List (String × MergeValue))
  | objectPrototype

def memberOf (members : List (String × MergeValue)) (key : String) : Option MergeValue :=
  (members.find? (·.1 == key)).map (·.2)

/-- `u[key]` for a key other than `__proto__`, unless it is undefined or built in. -/
def MergeValue.get? : MergeValue → String → Option MergeValue
  | .parsed (.obj members), key => (ownMember members key).map .parsed
  | .parsed (.arr items), key => ((arrayIndex? key).bind (items[·]?)).map .parsed
  | .merged prototype members, key =>
      match memberOf members key with
      | some value => some value
      | none => prototype.get? key
  | _, _ => none

/-- The members that `{ ...u }` copies, where `isPlainRecord(u)`. -/
def MergeValue.record? : MergeValue → Option (List (String × MergeValue))
  | .parsed (.obj members) => some (members.map fun m => (m.1, .parsed m.2))
  | .parsed _ => none
  | .merged _ members => some members
  | .objectPrototype => some []

/-- `out[key]`. -/
def existingValue (prototype : MergeValue) (out : List (String × MergeValue))
    (key : String) : Option MergeValue :=
  match memberOf out key with
  | some value => some value
  | none => if key = "__proto__" then some prototype else prototype.get? key

def setOwn (out : List (String × MergeValue)) (key : String) (value : MergeValue) :
    List (String × MergeValue) :=
  if out.any (·.1 == key) then out.map fun m => if m.1 = key then (key, value) else m
  else out ++ [(key, value)]

/-- What `out.__proto__ = value` leaves: a scalar is ignored. -/
def setPrototype (prototype : MergeValue) : MergeValue → MergeValue
  | .parsed (.bool _) | .parsed (.num _) | .parsed (.str _) => prototype
  | value => value

mutual

/-- The loop of `deepMergeObjects` over the entries of its second argument. -/
def mergeEntries (prototype : MergeValue) (out : List (String × MergeValue)) :
    List (String × Json) → MergeValue
  | [] => .merged prototype out
  | (key, v) :: rest =>
      let value := mergedValue ((existingValue prototype out key).bind MergeValue.record?) v
      if key = "__proto__" ∧ (memberOf out key).isNone then
        mergeEntries (setPrototype prototype value) out rest
      else mergeEntries prototype (setOwn out key value) rest

/-- What a member is set to: a record on a record is merged into it. -/
def mergedValue (existing : Option (List (String × MergeValue))) : Json → MergeValue
  | .obj members =>
      match existing with
      | some a => mergeEntries .objectPrototype a members
      | none => .parsed (.obj members)
  | v => .parsed v

end

/-- `Object.entries(v)`; `none` when it throws. -/
def objectEntries : Json → Option (List (String × Json))
  | .null => none
  | .bool _ | .num _ => some []
  | .str text => some ((utf16 text).zipIdx.map fun unit =>
      (toString unit.2, .str (String.singleton (Char.ofNat unit.1))))
  | .arr items => some (items.zipIdx.map fun item => (toString item.2, item.1))
  | .obj members => some members

/-- `deepMergeObjects(a, b)`; `none` when it throws. -/
def deepMergeObjects (a : MergeValue) (b : Json) : Option MergeValue :=
  (objectEntries b).map (mergeEntries .objectPrototype (a.record?.getD []))

/-! ## The tool calls of a bootstrap pack -/

/-- `choices?.choices?.[0]?.message?.tool_calls`, where it is an array. -/
def toolCallsOf (normalizedBootstrap : List (String × Json)) : Option (List Json) :=
  let choices := (Json.obj normalizedBootstrap).member "openaiChatCompletion"
  let first := (choices.optionalMember "choices").optionalMember "0"
  match (first.optionalMember "message").optionalMember "tool_calls" with
  | .json (.arr calls) => some calls
  | _ => none

/-- `tc?.function?.arguments`, read where it is a text that parses. -/
def parsedArguments (tc : Json) : Option Json :=
  match ((JsValue.json tc).optionalMember "function").optionalMember "arguments" with
  | .json (.str raw) => if raw = "" then none else parseJson raw.toList
  | _ => none

/-- A call whose arguments do not parse, or are `null`, is passed over. -/
def mergeCall (merged : MergeValue) (tc : Json) : MergeValue :=
  match parsedArguments tc with
  | some args => (deepMergeObjects merged args).getD merged
  | none => merged

def mergeBootstrapToolArgumentsForPointers (normalizedBootstrap : List (String × Json)) :
    MergeValue :=
  ((toolCallsOf normalizedBootstrap).getD []).foldl mergeCall (.merged .objectPrototype [])

/-! ## Pointers -/

/-- One token of the walk: an own member, or the item at the number that the token is. -/
def resolveStep (cur : MergeValue) (token : String) : Option MergeValue :=
  match cur with
  | .parsed (.arr items) => ((numberIndex token).bind (items[·]?)).map .parsed
  | .parsed (.obj members) => (ownMember members token).map .parsed
  | .merged _ members => memberOf members token
  | _ => none

def decodedTokens (rest : List Char) : List String := (rest.splitOn '/').map pointerToken

/-- The value at a pointer; `none` for `undefined`. -/
def resolveJsonPointer (doc : MergeValue) (pointer : String) : Option MergeValue :=
  match pointer.toList with
  | [] => some doc
  | '/' :: rest => (decodedTokens rest).foldlM resolveStep doc
  | _ => none

mutual

/-- The pointers that `walk` adds, in its order. -/
def walkPointers : Json → List String
  | .arr items => walkPointerItems items
  | .obj members =>
      (match ownMember members "pointer" with
        | some (.str s) => if s.toList.head? = some '/' then [s] else []
        | _ => []) ++ walkPointerMembers members
  | _ => []

def walkPointerItems : List Json → List String
  | [] => []
  | item :: items => walkPointers item ++ walkPointerItems items

def walkPointerMembers : List (String × Json) → List String
  | [] => []
  | (_, value) :: members => walkPointers value ++ walkPointerMembers members

end

def collectPointerStringsFromDraftTools (tools : Json) : List String :=
  (InsertionMap.ofKeys (walkPointers tools)).keys

/-! ## Readiness -/

inductive ReadinessStatus where
  | ready | review | blocked
  deriving DecidableEq, Repr

inductive ReadinessReasonCode where
  | registryInvalid | mergeFailed | modelNonJson | pointersUnresolved | assumptionsPresent
  | warningsPresent | ok
  deriving DecidableEq, Repr

structure DraftInput where
  assumptions : List String
  warnings : List String
  normalizedBootstrap : List (String × Json)
  draftTools : Json

def pointerUnresolvedCount (input : DraftInput) : ℕ :=
  let doc := mergeBootstrapToolArgumentsForPointers input.normalizedBootstrap
  (collectPointerStringsFromDraftTools input.draftTools).countP
    fun p => (resolveJsonPointer doc p).isNone

def scoreDraftReadiness (input : DraftInput) : ReadinessStatus × List ReadinessReasonCode :=
  let ass := decide (0 < input.assumptions.length)
  let warn := decide (0 < input.warnings.length)
  let ptr := decide (0 < pointerUnresolvedCount input)
  if !ass && !warn && !ptr then (.ready, [.ok])
  else
    (.review, (if ass then [.assumptionsPresent] else []) ++
      (if warn then [.warningsPresent] else []) ++ if ptr then [.pointersUnresolved] else [])

theorem mem_pointers_iff {tools : Json} {p : String} :
    p ∈ collectPointerStringsFromDraftTools tools ↔ p ∈ walkPointers tools :=
  InsertionMap.mem_keys_ofKeys

/-- A draft is ready if nothing was assumed or warned of and its pointers have a value in
the merged document. -/
theorem scoreDraftReadiness_ready_iff {input : DraftInput} :
    (scoreDraftReadiness input).1 = .ready ↔
      input.assumptions = [] ∧ input.warnings = [] ∧
        ∀ p ∈ walkPointers input.draftTools, ∃ v, resolveJsonPointer
          (mergeBootstrapToolArgumentsForPointers input.normalizedBootstrap) p = some v := by
  have hcount : pointerUnresolvedCount input = 0 ↔
      ∀ p ∈ walkPointers input.draftTools, ∃ v, resolveJsonPointer
        (mergeBootstrapToolArgumentsForPointers input.normalizedBootstrap) p = some v := by
    rw [pointerUnresolvedCount, List.countP_eq_zero]
    constructor
    · intro h p hp
      have hresolved := h p (mem_pointers_iff.mpr hp)
      exact Option.ne_none_iff_exists'.mp (by simpa using hresolved)
    · intro h p hp
      obtain ⟨v, hv⟩ := h p (mem_pointers_iff.mp hp)
      simp [hv]
  rw [← hcount, scoreDraftReadiness]
  constructor
  · intro h
    split_ifs at h with hready
    simp only [Bool.and_eq_true, Bool.not_eq_true', decide_eq_false_iff_not, not_lt,
      Nat.le_zero, List.length_eq_zero_iff] at hready
    exact ⟨hready.1.1, hready.1.2, hready.2⟩
  · rintro ⟨hass, hwarn, hptr⟩
    rw [hass, hwarn, hptr]
    rfl

/-! ## Where a merged value comes from -/

mutual

/-- No object below has a member of the name `__proto__`. -/
def PlainMembers : Json → Prop
  | .arr items => PlainItems items
  | .obj members => PlainEntries members
  | _ => True

def PlainItems : List Json → Prop
  | [] => True
  | item :: items => PlainMembers item ∧ PlainItems items

def PlainEntries : List (String × Json) → Prop
  | [] => True
  | (key, value) :: members => key ≠ "__proto__" ∧ PlainMembers value ∧ PlainEntries members

end

/-- The tokens lead somewhere. -/
def Resolves (doc : MergeValue) (tokens : List String) : Prop :=
  ∃ v, tokens.foldlM resolveStep doc = some v

theorem resolves_nil (doc : MergeValue) : Resolves doc [] := ⟨doc, rfl⟩

theorem resolves_cons {doc : MergeValue} {token : String} {tokens : List String} :
    Resolves doc (token :: tokens) ↔
      ∃ next, resolveStep doc token = some next ∧ Resolves next tokens := by
  constructor
  · rintro ⟨v, hv⟩
    rw [List.foldlM_cons] at hv
    obtain ⟨next, hnext, hrest⟩ := Option.bind_eq_some_iff.mp hv
    exact ⟨next, hnext, v, hrest⟩
  · rintro ⟨next, hnext, v, hrest⟩
    refine ⟨v, ?_⟩
    rw [List.foldlM_cons]
    exact Option.bind_eq_some_iff.mpr ⟨next, hnext, hrest⟩

theorem memberOf_setOwn (out : List (String × MergeValue)) (key token : String)
    (value : MergeValue) :
    memberOf (setOwn out key value) token =
      if token = key then some value else memberOf out token := by
  unfold setOwn memberOf
  split_ifs with hany htoken htoken
  · subst htoken
    induction out with
    | nil => simp at hany
    | cons m out ih =>
        by_cases hm : m.1 = token
        · simp [hm]
        · have hrest : out.any (·.1 == token) = true := by simpa [hm] using hany
          simpa [hm] using ih hrest
  · clear hany
    induction out with
    | nil => rfl
    | cons m out ih =>
        by_cases hm : m.1 = key
        · have hmt : m.1 ≠ token := fun h => htoken (h.symm.trans hm)
          have hkt : key ≠ token := fun h => htoken h.symm
          simpa [hm, hmt, hkt] using ih
        · by_cases hmt : m.1 = token
          · have hmk : token ≠ key := htoken
            simp [hmt, hmk]
          · simpa [hm, hmt] using ih
  · subst htoken
    have hnone : out.find? (·.1 == token) = none := by
      rw [List.find?_eq_none]
      intro m hm hkey
      exact hany (List.any_eq_true.mpr ⟨m, hm, hkey⟩)
    rw [List.find?_append, hnone]
    simp
  · have hkt : key ≠ token := fun h => htoken h.symm
    rw [List.find?_append]
    simp [hkt]

/-- A record resolves what its members do. -/
theorem resolves_of_record {u : MergeValue} {a : List (String × MergeValue)}
    (h : u.record? = some a) {token : String} {tokens : List String} {prototype : MergeValue}
    (hres : Resolves (.merged prototype a) (token :: tokens)) :
    Resolves u (token :: tokens) := by
  obtain ⟨next, hnext, hrest⟩ := resolves_cons.mp hres
  refine resolves_cons.mpr ⟨next, ?_, hrest⟩
  cases u with
  | objectPrototype =>
      cases Option.some.inj h
      cases hnext
  | merged prototype' members =>
      cases Option.some.inj h
      exact hnext
  | parsed v =>
      cases v with
      | obj members =>
          cases Option.some.inj h
          rw [resolveStep, memberOf, List.find?_map, Option.map_map] at hnext
          rw [resolveStep, ownMember, Option.map_map]
          exact hnext
      | _ => cases h

theorem existingValue_plain {out : List (String × MergeValue)} {key : String}
    (h : key ≠ "__proto__") : existingValue .objectPrototype out key = memberOf out key := by
  unfold existingValue
  cases memberOf out key with
  | some value => rfl
  | none => exact if_neg h

theorem mergeEntries_cons {out : List (String × MergeValue)} {key : String} {v : Json}
    {rest : List (String × Json)} (h : key ≠ "__proto__") :
    mergeEntries .objectPrototype out ((key, v) :: rest) =
      mergeEntries .objectPrototype
        (setOwn out key (mergedValue ((memberOf out key).bind MergeValue.record?) v)) rest := by
  rw [mergeEntries, existingValue_plain h]
  exact if_neg fun hproto => h hproto.1

theorem resolves_obj_cons_self {key : String} {v : Json} {rest : List (String × Json)}
    {tokens : List String} (h : Resolves (.parsed v) tokens) :
    Resolves (.parsed (.obj ((key, v) :: rest))) (key :: tokens) := by
  refine resolves_cons.mpr ⟨.parsed v, ?_, h⟩
  simp [resolveStep, ownMember]

/-- The tokens after the first one are another member's. -/
theorem resolves_obj_cons {key : String} {v : Json} {rest : List (String × Json)}
    (hkey : key ∉ rest.map Prod.fst) {tokens : List String} (hne : tokens ≠ [])
    (h : Resolves (.parsed (.obj rest)) tokens) :
    Resolves (.parsed (.obj ((key, v) :: rest))) tokens := by
  obtain ⟨token, tokens, rfl⟩ := List.exists_cons_of_ne_nil hne
  obtain ⟨next, hnext, hrest⟩ := resolves_cons.mp h
  refine resolves_cons.mpr ⟨next, ?_, hrest⟩
  obtain ⟨member, hmember, rfl⟩ := Option.map_eq_some_iff.mp hnext
  have hother : key ≠ token := by
    rintro rfl
    exact hkey (List.mem_map_of_mem (ownMember_eq_some hmember))
  have hown : ownMember ((key, v) :: rest) token = ownMember rest token := by
    simp [ownMember, hother]
  rw [resolveStep, hown, hmember]
  rfl

mutual

/-- A merged value comes from the member it is set to, or from the record that this was
merged into. -/
theorem mergedValue_from : ∀ v : Json, PlainMembers v → v.Decoded →
    ∀ existing tokens, Resolves (mergedValue existing v) tokens →
      Resolves (.parsed v) tokens ∨
        tokens ≠ [] ∧ ∃ a, existing = some a ∧ Resolves (.merged .objectPrototype a) tokens
  | .obj members, hplain, hdecoded => fun existing tokens h => by
      by_cases hne : tokens = []
      · subst hne
        exact .inl (resolves_nil _)
      cases existing with
      | none =>
          rw [mergedValue] at h
          exact .inl h
      | some a =>
          rw [mergedValue] at h
          rcases mergeEntries_from members hplain hdecoded a tokens hne h with ha | hb
          · exact .inr ⟨hne, a, rfl, ha⟩
          · exact .inl hb
  | .null, _, _ | .bool _, _, _ | .num _, _, _ | .str _, _, _ | .arr _, _, _ =>
      fun existing tokens h => by
        simp only [mergedValue] at h
        exact .inl h

theorem mergeEntries_from : ∀ b : List (String × Json), PlainEntries b →
    (Json.obj b).Decoded → ∀ out tokens, tokens ≠ [] →
      Resolves (mergeEntries .objectPrototype out b) tokens →
        Resolves (.merged .objectPrototype out) tokens ∨ Resolves (.parsed (.obj b)) tokens
  | [], _, _ => fun out tokens _ h => by
      rw [mergeEntries] at h
      exact .inl h
  | (key, v) :: rest, hplain, hdecoded => fun out tokens hne h => by
      obtain ⟨hkey, hv, hrest⟩ := hplain
      obtain ⟨hnodup, hvdecoded, hdecodedRest⟩ := hdecoded
      obtain ⟨hfresh, hnodupRest⟩ := List.nodup_cons.mp hnodup
      rw [mergeEntries_cons hkey] at h
      rcases mergeEntries_from rest hrest ⟨hnodupRest, hdecodedRest⟩ _ tokens hne h with
        hset | hlater
      · obtain ⟨token, tokens, rfl⟩ := List.exists_cons_of_ne_nil hne
        obtain ⟨next, hnext, htail⟩ := resolves_cons.mp hset
        rw [resolveStep, memberOf_setOwn] at hnext
        split_ifs at hnext with htoken
        · -- the member that is set
          subst htoken
          cases Option.some.inj hnext
          rcases mergedValue_from v hv hvdecoded _ tokens htail with hown | ⟨htne, a, ha, hres⟩
          · exact .inr (resolves_obj_cons_self hown)
          · obtain ⟨u, hu, hrecord⟩ := Option.bind_eq_some_iff.mp ha
            obtain ⟨next, tokens, rfl⟩ := List.exists_cons_of_ne_nil htne
            exact .inl (resolves_cons.mpr ⟨u, hu, resolves_of_record hrecord hres⟩)
        · exact .inl (resolves_cons.mpr ⟨next, hnext, htail⟩)
      · exact .inr (resolves_obj_cons hfresh hne hlater)

end

/-- Arguments that are an object, as every call of a pack has them. -/
def ObjectArguments (tc : Json) : Prop :=
  ∃ members, parsedArguments tc = some (.obj members) ∧ PlainEntries members

theorem decoded_parsedArguments {tc args : Json} (h : parsedArguments tc = some args) :
    args.Decoded := by
  unfold parsedArguments at h
  split at h
  · split_ifs at h
    exact parseJson_decoded h
  · cases h

theorem mergeCall_obj {tc : Json} {members : List (String × Json)}
    (h : parsedArguments tc = some (.obj members)) (merged : MergeValue) :
    mergeCall merged tc = mergeEntries .objectPrototype (merged.record?.getD []) members := by
  unfold mergeCall deepMergeObjects
  rw [h]
  rfl

theorem mergeCall_from {merged : MergeValue} {a : List (String × MergeValue)}
    (hmerged : merged.record? = some a) {tc : Json} (htc : ObjectArguments tc)
    {tokens : List String} (hne : tokens ≠ []) (h : Resolves (mergeCall merged tc) tokens) :
    Resolves merged tokens ∨
      ∃ args, parsedArguments tc = some args ∧ Resolves (.parsed args) tokens := by
  obtain ⟨members, hargs, hplain⟩ := htc
  rw [mergeCall_obj hargs, hmerged, Option.getD_some] at h
  rcases mergeEntries_from members hplain (decoded_parsedArguments hargs) a tokens hne h with
    hold | hown
  · obtain ⟨token, tokens, rfl⟩ := List.exists_cons_of_ne_nil hne
    exact .inl (resolves_of_record hmerged hold)
  · exact .inr ⟨_, hargs, hown⟩

theorem record_mergeEntries (b : List (String × Json)) (prototype : MergeValue)
    (out : List (String × MergeValue)) :
    ∃ a, (mergeEntries prototype out b).record? = some a := by
  induction b generalizing prototype out with
  | nil => exact ⟨out, rfl⟩
  | cons entry b ih =>
      rw [mergeEntries]
      split_ifs
      · exact ih _ _
      · exact ih _ _

theorem record_mergeCall {merged : MergeValue} {a : List (String × MergeValue)}
    (h : merged.record? = some a) (tc : Json) :
    ∃ a', (mergeCall merged tc).record? = some a' := by
  unfold mergeCall deepMergeObjects
  cases parsedArguments tc with
  | none => exact ⟨a, h⟩
  | some args =>
      cases hentries : objectEntries args with
      | none => exact ⟨a, by simpa [hentries] using h⟩
      | some b =>
          dsimp only
          rw [hentries]
          exact record_mergeEntries b _ _

/-- What the merged document resolves, one of the calls does. -/
theorem foldl_mergeCall_from {calls : List Json} (hcalls : ∀ tc ∈ calls, ObjectArguments tc)
    {merged : MergeValue} {a : List (String × MergeValue)} (hmerged : merged.record? = some a)
    {tokens : List String} (hne : tokens ≠ [])
    (h : Resolves (calls.foldl mergeCall merged) tokens) :
    Resolves merged tokens ∨ ∃ tc ∈ calls, ∃ args, parsedArguments tc = some args ∧
      Resolves (.parsed args) tokens := by
  induction calls generalizing merged a with
  | nil => exact .inl h
  | cons tc calls ih =>
      obtain ⟨htc, hrest⟩ := List.forall_mem_cons.mp hcalls
      obtain ⟨a', ha'⟩ := record_mergeCall hmerged tc
      rcases ih hrest ha' h with hset | ⟨later, hlater, hargs⟩
      · rcases mergeCall_from hmerged htc hne hset with hold | hown
        · exact .inl hold
        · exact .inr ⟨tc, List.mem_cons_self, hown⟩
      · exact .inr ⟨later, List.mem_cons_of_mem _ hlater, hargs⟩

/-! ## The resolver of the contract -/

/-- Every token that is read as an index is written as one. -/
def CanonicalIndexes (p : String) : Prop :=
  ∀ token ∈ decodedTokens p.toList.tail, ∀ i, numberIndex token = some i →
    arrayIndex? token = some i

theorem pointerStep_of_resolveStep {doc : Json} {next : MergeValue} {token : String}
    (hindex : ∀ i, numberIndex token = some i → arrayIndex? token = some i)
    (h : resolveStep (.parsed doc) token = some next) :
    ∃ v, next = .parsed v ∧ pointerStep (.json doc) token = .json v := by
  cases doc with
  | arr items =>
      obtain ⟨v, hv, rfl⟩ := Option.map_eq_some_iff.mp h
      obtain ⟨i, hi, hitem⟩ := Option.bind_eq_some_iff.mp hv
      refine ⟨v, rfl, pointerStep_own ?_⟩
      rw [ownStep, hindex i hi]
      exact hitem
  | obj members =>
      obtain ⟨v, hv, rfl⟩ := Option.map_eq_some_iff.mp h
      exact ⟨v, rfl, pointerStep_own hv⟩
  | null => cases h
  | bool value => cases h
  | num value => cases h
  | str value => cases h

theorem foldl_pointerStep_of_resolves {doc : Json} {tokens : List String}
    (hindex : ∀ token ∈ tokens, ∀ i, numberIndex token = some i → arrayIndex? token = some i)
    (h : Resolves (.parsed doc) tokens) :
    ∃ v, tokens.foldl pointerStep (.json doc) = .json v := by
  induction tokens generalizing doc with
  | nil => exact ⟨doc, rfl⟩
  | cons token tokens ih =>
      obtain ⟨hfirst, hrest⟩ := List.forall_mem_cons.mp hindex
      obtain ⟨next, hnext, htail⟩ := resolves_cons.mp h
      obtain ⟨v, rfl, hv⟩ := pointerStep_of_resolveStep hfirst hnext
      rw [List.foldl_cons, hv]
      exact ih hrest htail

mutual

theorem slash_walkPointers : ∀ v : Json, ∀ p ∈ walkPointers v, p.toList.head? = some '/'
  | .arr items => slash_walkPointerItems items
  | .obj members => fun p hp => by
      rw [walkPointers] at hp
      rcases List.mem_append.mp hp with hown | hbelow
      · split at hown
        · split_ifs at hown with hslash
          · rw [List.mem_singleton.mp hown]
            exact hslash
          · cases hown
        · cases hown
      · exact slash_walkPointerMembers members p hbelow
  | .null | .bool _ | .num _ | .str _ => fun p hp => by
      simp only [walkPointers] at hp
      cases hp

theorem slash_walkPointerItems : ∀ items : List Json, ∀ p ∈ walkPointerItems items,
    p.toList.head? = some '/'
  | [] => fun p hp => by
      rw [walkPointerItems] at hp
      cases hp
  | item :: items => fun p hp => by
      rw [walkPointerItems] at hp
      rcases List.mem_append.mp hp with hitem | hrest
      · exact slash_walkPointers item p hitem
      · exact slash_walkPointerItems items p hrest

theorem slash_walkPointerMembers : ∀ members : List (String × Json),
    ∀ p ∈ walkPointerMembers members, p.toList.head? = some '/'
  | [] => fun p hp => by
      rw [walkPointerMembers] at hp
      cases hp
  | (_, value) :: members => fun p hp => by
      rw [walkPointerMembers] at hp
      rcases List.mem_append.mp hp with hvalue | hrest
      · exact slash_walkPointers value p hvalue
      · exact slash_walkPointerMembers members p hrest

end

theorem mem_walkPointerItems {items : List Json} {entry : Json} (h : entry ∈ items) {p : String}
    (hp : p ∈ walkPointers entry) : p ∈ walkPointerItems items := by
  induction items with
  | nil => cases h
  | cons item items ih =>
      rw [walkPointerItems, List.mem_append]
      rcases List.mem_cons.mp h with rfl | hrest
      · exact .inl hp
      · exact .inr (ih hrest)

/-! ## What readiness promises -/

def draftEntries (input : DraftInput) : List Json :=
  match input.draftTools with
  | .arr entries => entries
  | _ => []

def bootstrapCalls (input : DraftInput) : List Json :=
  (toolCallsOf input.normalizedBootstrap).getD []

/-- `fn.name` of a call. -/
def callName (tc : Json) : JsValue :=
  ((JsValue.json tc).optionalMember "function").optionalMember "name"

/-- The contract resolver finds a value. -/
def Defined (args : Json) (p : String) : Prop :=
  ∃ v, getPointer args p = .ok v ∧ v ≠ .undefined

/-- Every pointer of an entry is defined on the arguments of every call of its tool. -/
def CallsResolve (input : DraftInput) : Prop :=
  ∀ entry ∈ draftEntries input, ∀ tc ∈ bootstrapCalls input,
    callName tc = entry.member "toolId" → ∀ args, parsedArguments tc = some args →
      ∀ p ∈ collectPointerStringsFromDraftTools entry, Defined args p

theorem tokens_of_slash {p : String} (h : p.toList.head? = some '/') :
    ∃ rest, p.toList = '/' :: rest ∧ decodedTokens rest ≠ [] := by
  obtain ⟨rest, hrest⟩ := List.head?_eq_some_iff.mp h
  refine ⟨rest, hrest, ?_⟩
  intro hnil
  exact List.splitOn_ne_nil '/' rest (List.map_eq_nil_iff.mp hnil)

theorem resolves_iff {doc : MergeValue} {p : String} {rest : List Char}
    (h : p.toList = '/' :: rest) :
    (∃ v, resolveJsonPointer doc p = some v) ↔ Resolves doc (decodedTokens rest) := by
  unfold resolveJsonPointer Resolves
  rw [h]
  exact Iff.rfl

/-- A pointer of a ready draft has a value in the merged document, and so in the arguments
of one of the calls, where the contract resolver finds one if the indices are written as
such. -/
theorem readyDraft_resolves (input : DraftInput) (h : (scoreDraftReadiness input).1 = .ready) :
    ∀ entry ∈ draftEntries input, ∀ p ∈ collectPointerStringsFromDraftTools entry,
      (∃ v, resolveJsonPointer
        (mergeBootstrapToolArgumentsForPointers input.normalizedBootstrap) p = some v) ∧
      ((∀ tc ∈ bootstrapCalls input, ObjectArguments tc) →
        ∃ tc ∈ bootstrapCalls input, ∃ args, parsedArguments tc = some args ∧
          (∃ v, resolveJsonPointer (.parsed args) p = some v) ∧
            (CanonicalIndexes p → Defined args p)) := by
  intro entry hentry p hp
  have hwalk := mem_pointers_iff.mp hp
  have hdraft : p ∈ walkPointers input.draftTools := by
    unfold draftEntries at hentry
    split at hentry
    · next entries heq =>
        rw [heq, walkPointers]
        exact mem_walkPointerItems hentry hwalk
    · cases hentry
  have hmerged := (scoreDraftReadiness_ready_iff.mp h).2.2 p hdraft
  refine ⟨hmerged, fun hcalls => ?_⟩
  obtain ⟨rest, hrest, hne⟩ := tokens_of_slash (slash_walkPointers entry p hwalk)
  rcases foldl_mergeCall_from hcalls (a := []) rfl hne ((resolves_iff hrest).mp hmerged) with
    hempty | ⟨tc, htc, args, hargs, hres⟩
  · obtain ⟨token, tokens, htokens⟩ := List.exists_cons_of_ne_nil hne
    rw [htokens] at hempty
    obtain ⟨next, hnext, -⟩ := resolves_cons.mp hempty
    cases hnext
  · refine ⟨tc, htc, args, hargs, (resolves_iff hrest).mpr hres, fun hindex => ?_⟩
    rw [CanonicalIndexes, hrest] at hindex
    obtain ⟨v, hv⟩ := foldl_pointerStep_of_resolves hindex hres
    refine ⟨.json v, ?_, fun h => by cases h⟩
    rw [getPointer, hrest]
    exact congrArg Except.ok hv

def toolCall (name : String) (args : Json) : Json :=
  .obj [("id", .str "call_1"), ("type", .str "function"),
    ("function", .obj [("name", .str name), ("arguments", .str args.stringify)])]

theorem parsedArguments_toolCall (name : String) {args : Json} (h : args.WellFormed)
    (hraw : args.stringify ≠ "") : parsedArguments (toolCall name args) = some args := by
  have harguments : parsedArguments (toolCall name args) =
      if args.stringify = "" then none else parseJson args.stringify.toList := rfl
  have hparse := @parseJson_stringify _ h [] (by simp)
  rw [List.append_nil] at hparse
  rw [harguments, if_neg hraw, hparse]

/-- Arguments of one text. -/
def textArgument (key value : String) : Json := .obj [(key, .str value)]

theorem wellFormed_textArgument {key : String} (value : String)
    (h : isIndexKey key = false) : (textArgument key value).WellFormed := by
  apply wellFormed_obj [key] rfl
  · simp [plainKeys, h]
  · intro m hm
    rw [List.mem_singleton.mp hm]
    trivial

def bootstrapPack (calls : List Json) : List (String × Json) :=
  [("schemaVersion", .num (.int 1)), ("workflowId", .str "wf"),
    ("openaiChatCompletion",
      .obj [("choices", .arr [.obj [("message", .obj [("tool_calls", .arr calls)])]])])]

def storageEntry : Json :=
  .obj [("toolId", .str "files.put"), ("effectDescriptionTemplate", .str ""),
    ("verification", .obj [("kind", .str "object_storage_object"),
      ("bucket", .obj [("const", .str "files")]), ("key", .obj [("pointer", .str "/id")])])]

theorem walkPointers_storageEntry : walkPointers storageEntry = ["/id"] := by decide +kernel

/-- A draft whose only entry reads the key of an object at `/id`. -/
def storageDraft (calls : List Json) : DraftInput :=
  ⟨[], [], bootstrapPack calls, .arr [storageEntry]⟩

theorem storageDraft_ready {calls : List Json}
    (h : Resolves (calls.foldl mergeCall (.merged .objectPrototype [])) ["id"]) :
    (scoreDraftReadiness (storageDraft calls)).1 = .ready := by
  refine scoreDraftReadiness_ready_iff.mpr ⟨rfl, rfl, fun p hp => ?_⟩
  have hwalk : walkPointers (storageDraft calls).draftTools =
      walkPointers storageEntry ++ [] := by
    rw [storageDraft, walkPointers, walkPointerItems, walkPointerItems]
  rw [hwalk, List.append_nil, walkPointers_storageEntry, List.mem_singleton] at hp
  subst hp
  exact (@resolves_iff _ _ "id".toList rfl).mpr h

theorem readyDraft_resolves_storage :
    let input := storageDraft [toolCall "files.put" (textArgument "id" "a")]
    ∀ entry ∈ draftEntries input, ∀ p ∈ collectPointerStringsFromDraftTools entry,
      (∃ v, resolveJsonPointer
        (mergeBootstrapToolArgumentsForPointers input.normalizedBootstrap) p = some v) ∧
      ((∀ tc ∈ bootstrapCalls input, ObjectArguments tc) →
        ∃ tc ∈ bootstrapCalls input, ∃ args, parsedArguments tc = some args ∧
          (∃ v, resolveJsonPointer (.parsed args) p = some v) ∧
            (CanonicalIndexes p → Defined args p)) := by
  have hargs := parsedArguments_toolCall "files.put"
    (@wellFormed_textArgument "id" "a" (by decide)) (by decide +kernel)
  apply readyDraft_resolves
  apply storageDraft_ready
  rw [List.foldl_cons, mergeCall_obj hargs]
  exact ⟨.parsed (.str "a"), rfl⟩

/-- Of two calls of one tool, the first has the member that the draft reads. -/
theorem readyDraft_missesCall :
    ¬∀ input : DraftInput, (scoreDraftReadiness input).1 = .ready → CallsResolve input := by
  intro h
  have hid := parsedArguments_toolCall "files.put"
    (@wellFormed_textArgument "id" "a" (by decide)) (by decide +kernel)
  have hkey := parsedArguments_toolCall "files.put"
    (@wellFormed_textArgument "key" "b" (by decide)) (by decide +kernel)
  have hready : (scoreDraftReadiness (storageDraft
      [toolCall "files.put" (textArgument "id" "a"),
        toolCall "files.put" (textArgument "key" "b")])).1 = .ready := by
    apply storageDraft_ready
    rw [List.foldl_cons, List.foldl_cons, mergeCall_obj hid, mergeCall_obj hkey]
    exact ⟨.parsed (.str "a"), rfl⟩
  have hpointer : "/id" ∈ collectPointerStringsFromDraftTools storageEntry := by
    rw [mem_pointers_iff, walkPointers_storageEntry]
    exact List.mem_singleton_self _
  obtain ⟨v, hv, hdefined⟩ := h _ hready storageEntry List.mem_cons_self _
    (List.mem_cons_of_mem _ List.mem_cons_self) rfl _ hkey "/id" hpointer
  have hlost : getPointer (textArgument "key" "b") "/id" = .ok .undefined := rfl
  exact hdefined (Except.ok.inj (hv.symm.trans hlost))

end AgentSkeptic.Hosted

import AgentSkeptic.Engine.PointerEvaluation
import AgentSkeptic.Quick.ExportParams

/-!
# Flat keys as pointers

`flattenParams` writes the place of a scalar as a text, and `flatKeyToJsonPointer` reads it
back.  Neither escapes the points and brackets of a member name, so that a name with one of
them is read as two.  Where the names have none, a key decodes to the place of its value,
and no two places share a key: `flatKeys_decode`.
-/

namespace AgentSkeptic.Quick

open AgentSkeptic.Support AgentSkeptic.Engine

/-! ## Places -/

inductive PathStep where
  | member (name : String)
  | item (i : ℕ)
  deriving DecidableEq, Repr

def PathStep.token : PathStep → String
  | member name => name
  | item i => toString i

/-- A scalar that the walk comes to: scalars in arrays are passed over. -/
inductive Leaf : Json → List PathStep → FlatScalar → Prop where
  | scalar {v value} (hv : v = scalarJson value) : Leaf v [] value
  | member {members name v place value} (hv : ownMember members name = some v)
      (h : Leaf v place value) : Leaf (.obj members) (.member name :: place) value
  | item {items i v place value} (hv : items[i]? = some v) (hplace : place ≠ [])
      (h : Leaf v place value) : Leaf (.arr items) (.item i :: place) value

def extendPath (path : String) : PathStep → String
  | .member name => childPath path name
  | .item i => path ++ "[" ++ toString i ++ "]"

/-- The key that the walk sets at a path. -/
def namedKey (path : String) : String := if path = "" then "value" else path

def keyOf (place : List PathStep) : String := namedKey (place.foldl extendPath "")

/-! ## Where the scalars come from -/

/-- Every scalar that the walk sets is that of a leaf within the depth. -/
def SetsLeaves (val : Json) (walk : String → ℕ → FlattenState → FlattenState) : Prop :=
  ∀ path depth (s : FlattenState) key value,
    (walk path depth s).flat.get? key = some value →
      s.flat.get? key = some value ∨
        ∃ place, Leaf val place value ∧ depth + place.length ≤ flattenMaxDepth ∧
          key = namedKey (place.foldl extendPath path)

theorem get?_setFlat {path key : String} {value value' : FlatScalar} {s : FlattenState}
    (h : (setFlat path value s).flat.get? key = some value') :
    s.flat.get? key = some value' ∨ key = namedKey path ∧ value' = value := by
  have hset : (setFlat path value s).flat = s.flat.set (namedKey path) value := rfl
  rw [hset, ScalarRecord.set] at h
  split_ifs at h
  · exact .inl h
  · rw [ScalarRecord.get?, InsertionMap.get?_set] at h
    split_ifs at h with hkey
    · exact .inr ⟨hkey.symm, (Option.some.inj h).symm⟩
    · exact .inl h

theorem get?_enter {s : FlattenState} {depth : ℕ} {inside : FlattenState → FlattenState}
    {key : String} {value : FlatScalar}
    (h : (s.enter depth inside).flat.get? key = some value) :
    s.flat.get? key = some value ∨ depth ≤ flattenMaxDepth ∧
      ∃ counted : FlattenState, counted.flat = s.flat ∧
        (inside counted).flat.get? key = some value := by
  unfold FlattenState.enter at h
  dsimp only at h
  split_ifs at h with hcap hdepth
  · exact .inl h
  · exact .inl h
  · exact .inr ⟨not_lt.mp hdepth, { s with n := s.n + 1 }, rfl, h⟩

theorem setsLeaves_scalar (value : FlatScalar) :
    SetsLeaves (scalarJson value) fun path depth s => s.enter depth (setFlat path value) := by
  intro path depth s key value' h
  rcases get?_enter h with hold | ⟨hdepth, counted, hflat, hset⟩
  · exact .inl hold
  · rcases get?_setFlat hset with hold | ⟨hkey, rfl⟩
    · rw [hflat] at hold
      exact .inl hold
    · exact .inr ⟨[], .scalar rfl, hdepth, hkey⟩

theorem Leaf.ne_nil {val : Json} {place : List PathStep} {value : FlatScalar}
    (h : Leaf val place value) (hval : ∀ v : FlatScalar, scalarJson v ≠ val) :
    place ≠ [] := by
  rintro rfl
  cases h with
  | scalar hv => exact hval value hv.symm

theorem foldl_setsLeaves {members : List (String × Json)}
    {walks : List (String × (String → ℕ → FlattenState → FlattenState))}
    (hwalks : ∀ m ∈ walks, ∃ v, (m.1, v) ∈ members ∧ SetsLeaves v m.2)
    {path key : String} {depth : ℕ} {s : FlattenState} {value : FlatScalar}
    (h : (walks.foldl (fun s m => m.2 (childPath path m.1) depth s) s).flat.get? key =
      some value) :
    s.flat.get? key = some value ∨ ∃ name v place, (name, v) ∈ members ∧
      Leaf v place value ∧ depth + place.length ≤ flattenMaxDepth ∧
        key = namedKey (place.foldl extendPath (childPath path name)) := by
  induction walks generalizing s with
  | nil => exact .inl h
  | cons m walks ih =>
      obtain ⟨hm, hrest⟩ := List.forall_mem_cons.mp hwalks
      rcases ih hrest h with hset | hleaf
      · obtain ⟨v, hv, hwalk⟩ := hm
        rcases hwalk _ _ _ _ _ hset with hold | ⟨place, hleaf, hdepth, hkey⟩
        · exact .inl hold
        · exact .inr ⟨m.1, v, place, hv, hleaf, hdepth, hkey⟩
      · exact .inr hleaf

/-- The walk below an element of an array. -/
theorem item_setsLeaves {item : Json} {items : List Json} {path key : String}
    {i depth : ℕ} {s : FlattenState} {value : FlatScalar}
    (hitem : SetsLeaves item (walk item)) (hne : ∀ v : FlatScalar, scalarJson v ≠ item)
    (h : (walk item (path ++ "[" ++ toString i ++ "]") depth s).flat.get? key =
      some value) :
    s.flat.get? key = some value ∨ ∃ j v place, (item :: items)[j]? = some v ∧
      place ≠ [] ∧ Leaf v place value ∧ depth + place.length ≤ flattenMaxDepth ∧
        key = namedKey (place.foldl extendPath (extendPath path (.item (i + j)))) := by
  rcases hitem _ _ _ _ _ h with hold | ⟨place, hleaf, hdepth, hkey⟩
  · exact .inl hold
  · exact .inr ⟨0, item, place, rfl, hleaf.ne_nil hne, hleaf, hdepth, hkey⟩

mutual

theorem walk_setsLeaves : ∀ val : Json, val.Decoded → SetsLeaves val (walk val)
  | .null, _ => setsLeaves_scalar .null
  | .bool value, _ => setsLeaves_scalar (.bool value)
  | .num value, _ => setsLeaves_scalar (.num value)
  | .str value, _ => setsLeaves_scalar (.str value)
  | .arr items, hval => fun path depth s key value h => by
      rw [walk] at h
      rcases get?_enter h with hold | ⟨-, counted, hflat, hinside⟩
      · exact .inl hold
      · rcases walkItems_setsLeaves items hval path 0 (depth + 1) counted key value hinside with
          hold | ⟨i, v, place, hv, hplace, hleaf, hdepth, hkey⟩
        · rw [hflat] at hold
          exact .inl hold
        · refine .inr ⟨.item i :: place, .item hv hplace hleaf, ?_, ?_⟩
          · rw [List.length_cons]
            omega
          · rw [hkey, Nat.zero_add]
            rfl
  | .obj members, hval => fun path depth s key value h => by
      have hwalks := walkMembers_setsLeaves members hval.2
      rw [walk] at h
      rcases get?_enter h with hold | ⟨-, counted, hflat, hinside⟩
      · exact .inl hold
      · rcases foldl_setsLeaves
          (fun m hm => hwalks m ((List.mem_insertionSort _).mp hm)) hinside with
          hold | ⟨name, v, place, hv, hleaf, hdepth, hkey⟩
        · rw [hflat] at hold
          exact .inl hold
        · have hown : ownMember members name = some v :=
            (ownMember_iff (decoded_obj.mp hval).1).mpr hv
          refine .inr ⟨.member name :: place, .member hown hleaf, ?_, hkey⟩
          rw [List.length_cons]
          omega

theorem walkItems_setsLeaves : ∀ items : List Json, Json.DecodedItems items →
    ∀ path i depth (s : FlattenState) key value,
      (walkItems items path i depth s).flat.get? key = some value →
        s.flat.get? key = some value ∨ ∃ j v place, items[j]? = some v ∧ place ≠ [] ∧
          Leaf v place value ∧ depth + place.length ≤ flattenMaxDepth ∧
            key = namedKey (place.foldl extendPath (extendPath path (.item (i + j))))
  | [], _ => fun _ _ _ s _ _ h => .inl h
  | item :: items, hitems => fun path i depth s key value h => by
      have hrest := walkItems_setsLeaves items hitems.2 path (i + 1) depth
      have hlater {s' : FlattenState}
          (hset : (walkItems items path (i + 1) depth s').flat.get? key = some value) :
          s'.flat.get? key = some value ∨ ∃ j v place, (item :: items)[j]? = some v ∧
            place ≠ [] ∧ Leaf v place value ∧ depth + place.length ≤ flattenMaxDepth ∧
              key = namedKey (place.foldl extendPath (extendPath path (.item (i + j)))) := by
        rcases hrest s' key value hset with hold | ⟨j, v, place, hv, hne, hleaf, hdepth, hkey⟩
        · exact .inl hold
        · refine .inr ⟨j + 1, v, place, hv, hne, hleaf, hdepth, ?_⟩
          rw [hkey, Nat.add_right_comm i 1 j]
          rfl
      cases item with
      | arr inner =>
          rw [walkItems] at h
          rcases hlater h with hset | hleaf
          · exact item_setsLeaves (walk_setsLeaves (.arr inner) hitems.1)
              (by rintro (_ | _ | _ | _) <;> simp [scalarJson]) hset
          · exact .inr hleaf
      | obj members =>
          rw [walkItems] at h
          rcases hlater h with hset | hleaf
          · exact item_setsLeaves (walk_setsLeaves (.obj members) hitems.1)
              (by rintro (_ | _ | _ | _) <;> simp [scalarJson]) hset
          · exact .inr hleaf
      | _ =>
          simp only [walkItems] at h
          exact hlater h

theorem walkMembers_setsLeaves : ∀ members : List (String × Json),
    Json.DecodedMembers members → ∀ m ∈ walkMembers members,
      ∃ v, (m.1, v) ∈ members ∧ SetsLeaves v m.2
  | [], _ => by simp [walkMembers]
  | (key, value) :: members, hmembers => by
      intro m hm
      rcases List.mem_cons.mp hm with rfl | hrest
      · exact ⟨value, List.mem_cons_self, walk_setsLeaves value hmembers.1⟩
      · obtain ⟨v, hv, hwalk⟩ := walkMembers_setsLeaves members hmembers.2 m hrest
        exact ⟨v, List.mem_cons_of_mem _ hv, hwalk⟩

end

/-- Every entry of the flat record is the scalar of a leaf, under its key. -/
theorem flattenParams_leaf {params : List (String × Json)} (h : (Json.obj params).Decoded)
    {key : String} {value : FlatScalar}
    (hget : (flattenParams params).1.get? key = some value) :
    ∃ place, Leaf (.obj params) place value ∧ place.length ≤ flattenMaxDepth ∧
      key = keyOf place := by
  rcases walk_setsLeaves (.obj params) h "" 0 ⟨.empty, [], 0⟩ key value hget with
    hold | ⟨place, hleaf, hdepth, hkey⟩
  · cases hold
  · exact ⟨place, hleaf, by omega, hkey⟩

/-! ## Decoding a key -/

/-- A name that its key does not cut. -/
def PlainName (name : String) : Prop :=
  name ≠ "" ∧ '.' ∉ name.toList ∧ '[' ∉ name.toList

instance (name : String) : Decidable (PlainName name) := inferInstanceAs (Decidable (_ ∧ _))

def PathStep.Plain : PathStep → Prop
  | .member name => PlainName name
  | .item _ => True

/-- What a step adds to a path. -/
def stepText : PathStep → List Char
  | .member name => '.' :: name.toList
  | .item i => '[' :: ((toString i).toList ++ [']'])

theorem extendPath_toList {path : String} (h : path ≠ "") (step : PathStep) :
    (extendPath path step).toList = path.toList ++ stepText step := by
  cases step with
  | member name =>
      rw [extendPath, childPath, if_neg h, String.toList_append, String.toList_append,
        List.append_assoc]
      rfl
  | item i =>
      rw [extendPath, String.toList_append, String.toList_append, String.toList_append,
        List.append_assoc, List.append_assoc]
      rfl

theorem foldl_extendPath_toList {path : String} (h : path ≠ "") (place : List PathStep) :
    (place.foldl extendPath path).toList = path.toList ++ place.flatMap stepText := by
  induction place generalizing path with
  | nil => simp
  | cons step place ih =>
      have hstep := extendPath_toList h step
      have hne : extendPath path step ≠ "" := by
        intro hempty
        rw [hempty] at hstep
        exact h (String.toList_eq_nil_iff.mp (List.append_eq_nil_iff.mp hstep.symm).1)
      rw [List.foldl_cons, ih hne, hstep, List.flatMap_cons, List.append_assoc]

theorem keyOf_member_toList {name : String} (h : name ≠ "") (place : List PathStep) :
    (keyOf (.member name :: place)).toList = name.toList ++ place.flatMap stepText := by
  have hpath : extendPath "" (.member name) = name := rfl
  have hlist := foldl_extendPath_toList h place
  have hne : place.foldl extendPath name ≠ "" := by
    intro hempty
    rw [hempty] at hlist
    exact h (String.toList_eq_nil_iff.mp (List.append_eq_nil_iff.mp hlist.symm).1)
  rw [keyOf, List.foldl_cons, hpath, namedKey, if_neg hne, hlist]

theorem pointerParts_plain {c : Char} (hpoint : c ≠ '.') (hbracket : c ≠ '[') (fuel : ℕ)
    (cs : List Char) : pointerParts (fuel + 1) (c :: cs) = (do
      let plain (d : Char) := decide (d ≠ '.' ∧ d ≠ '[')
      let parts ← pointerParts fuel (skipPoint (cs.dropWhile plain))
      .ok (encodePointerToken (c :: cs.takeWhile plain) :: parts)) := by
  rw [pointerParts]
  · exact hpoint
  · exact hbracket

theorem head_flatMap_stepText (place : List PathStep) :
    ∀ c ∈ (place.flatMap stepText).head?, c = '.' ∨ c = '[' := by
  intro c hc
  cases place with
  | nil => cases hc
  | cons step place =>
      cases step with
      | member name => exact .inl (Option.some.inj hc).symm
      | item i => exact .inr (Option.some.inj hc).symm

/-- A name is read up to the step behind it. -/
theorem pointerParts_name {name : String} (hname : PlainName name) {place : List PathStep}
    {parts : List (List Char)} {fuel : ℕ}
    (hrest : pointerParts fuel (skipPoint (place.flatMap stepText)) = .ok parts) :
    pointerParts (fuel + 1) (name.toList ++ place.flatMap stepText) =
      .ok (escapeToken name :: parts) := by
  obtain ⟨hne, hpoint, hbracket⟩ := hname
  have hplain : ∀ c ∈ name.toList, decide (c ≠ '.' ∧ c ≠ '[') = true := by
    intro c hc
    apply decide_eq_true
    refine ⟨?_, ?_⟩
    · rintro rfl
      exact hpoint hc
    · rintro rfl
      exact hbracket hc
  cases hlist : name.toList with
  | nil => exact absurd (String.toList_eq_nil_iff.mp hlist) hne
  | cons c cs =>
      rw [hlist] at hplain hpoint hbracket
      obtain ⟨hc, hcs⟩ := List.forall_mem_cons.mp hplain
      have hstop : ∀ d ∈ (place.flatMap stepText).head?,
          decide (d ≠ '.' ∧ d ≠ '[') = false := by
        intro d hd
        rcases head_flatMap_stepText place d hd with rfl | rfl
        · rfl
        · rfl
      have hdrop : (cs ++ place.flatMap stepText).dropWhile
          (fun d => decide (d ≠ '.' ∧ d ≠ '[')) = place.flatMap stepText := by
        rw [List.dropWhile_append_of_pos hcs]
        cases hflat : place.flatMap stepText with
        | nil => rfl
        | cons d ds =>
            rw [hflat] at hstop
            exact List.dropWhile_cons_of_neg (by rw [hstop d rfl]; exact Bool.false_ne_true)
      have htake : (cs ++ place.flatMap stepText).takeWhile
          (fun d => decide (d ≠ '.' ∧ d ≠ '[')) = cs := by
        rw [List.takeWhile_append_of_pos hcs]
        cases hflat : place.flatMap stepText with
        | nil => simp
        | cons d ds =>
            rw [hflat] at hstop
            rw [List.takeWhile_cons_of_neg (by rw [hstop d rfl]; exact Bool.false_ne_true),
              List.append_nil]
      rw [List.cons_append, pointerParts_plain (of_decide_eq_true hc).1
        (of_decide_eq_true hc).2]
      dsimp only
      rw [hdrop, htake, hrest, escapeToken, hlist]
      rfl

theorem isDigit_of_mem_toString {i : ℕ} {c : Char} (h : c ∈ (toString i).toList) :
    c.isDigit = true := by
  rw [Nat.toString_eq_ofList_toDigits, String.toList_ofList] at h
  exact Nat.isDigit_of_mem_toDigits (by decide) (by decide) h

theorem toString_toList_ne_nil (i : ℕ) : (toString i).toList ≠ [] := by
  rw [Nat.toString_eq_ofList_toDigits, String.toList_ofList]
  exact Nat.toDigits_ne_nil

theorem escapeToken_toString (i : ℕ) : escapeToken (toString i) = (toString i).toList := by
  have hid : ∀ cs : List Char, (∀ c ∈ cs, c.isDigit = true) → cs.flatMap escapeChar = cs := by
    intro cs hcs
    induction cs with
    | nil => rfl
    | cons c cs ih =>
        obtain ⟨hc, hrest⟩ := List.forall_mem_cons.mp hcs
        have htilde : c ≠ '~' := by
          rintro rfl
          exact absurd hc (by decide)
        have hslash : c ≠ '/' := by
          rintro rfl
          exact absurd hc (by decide)
        rw [List.flatMap_cons, ih hrest, escapeChar, if_neg htilde, if_neg hslash,
          List.singleton_append]
  exact hid _ fun c hc => isDigit_of_mem_toString hc

/-- An index is read up to its bracket. -/
theorem pointerParts_item {i fuel : ℕ} {rest : List Char} {parts : List (List Char)}
    (hrest : pointerParts fuel (skipPoint rest) = .ok parts) :
    pointerParts (fuel + 1) ('[' :: ((toString i).toList ++ ']' :: rest)) =
      .ok (escapeToken (toString i) :: parts) := by
  have hdigit : ∀ c ∈ (toString i).toList, decide (c ≠ ']') = true := by
    intro c hc
    apply decide_eq_true
    rintro rfl
    exact absurd (isDigit_of_mem_toString hc) (by decide)
  have htake : ((toString i).toList ++ ']' :: rest).takeWhile (fun c => decide (c ≠ ']')) =
      (toString i).toList := by
    rw [List.takeWhile_append_of_pos hdigit, List.takeWhile_cons_of_neg (by simp),
      List.append_nil]
  have hdrop : ((toString i).toList ++ ']' :: rest).dropWhile (fun c => decide (c ≠ ']')) =
      ']' :: rest := by
    rw [List.dropWhile_append_of_pos hdigit, List.dropWhile_cons_of_neg (by simp)]
  have hall : (toString i).toList.all Char.isDigit = true :=
    List.all_eq_true.mpr fun c hc => isDigit_of_mem_toString hc
  rw [pointerParts, hdrop, htake]
  dsimp only
  rw [if_pos ⟨toString_toList_ne_nil i, hall⟩, hrest, escapeToken_toString]
  rfl

theorem pointerParts_steps {place : List PathStep} (hplain : ∀ step ∈ place, step.Plain)
    {fuel : ℕ} (hfuel : (place.flatMap stepText).length ≤ fuel) :
    pointerParts fuel (skipPoint (place.flatMap stepText)) =
      .ok (place.map fun step => escapeToken step.token) := by
  induction place generalizing fuel with
  | nil =>
      cases fuel with
      | zero => rfl
      | succ fuel => rfl
  | cons step place ih =>
      obtain ⟨hstep, hrest⟩ := List.forall_mem_cons.mp hplain
      rw [List.flatMap_cons, List.length_append] at hfuel
      rw [List.flatMap_cons]
      cases step with
      | member name =>
          rw [stepText, List.length_cons] at hfuel
          obtain ⟨fuel, rfl⟩ : ∃ k, fuel = k + 1 := ⟨fuel - 1, by omega⟩
          have hskip : skipPoint (stepText (.member name) ++ place.flatMap stepText) =
              name.toList ++ place.flatMap stepText := rfl
          rw [hskip, pointerParts_name hstep (ih hrest (by omega))]
          rfl
      | item i =>
          rw [stepText, List.length_cons] at hfuel
          obtain ⟨fuel, rfl⟩ : ∃ k, fuel = k + 1 := ⟨fuel - 1, by omega⟩
          have hskip : skipPoint (stepText (.item i) ++ place.flatMap stepText) =
              '[' :: ((toString i).toList ++ ']' :: place.flatMap stepText) := by
            rw [stepText, List.cons_append, List.append_assoc]
            rfl
          rw [hskip, pointerParts_item (ih hrest (by omega))]
          rfl

theorem intercalate_escapeToken (name : String) (names : List String) :
    '/' :: ['/'].intercalate (escapeToken name :: names.map escapeToken) =
      (name :: names).flatMap fun name => '/' :: escapeToken name := by
  induction names generalizing name with
  | nil => simp
  | cons next names ih =>
      rw [List.flatMap_cons, ← ih next, List.map_cons, List.intercalate_cons_cons,
        List.append_assoc]
      rfl

/-- The key of a place whose names are plain is the pointer to it. -/
theorem flatKeyToJsonPointer_keyOf {name : String} {place : List PathStep}
    (hplain : ∀ step ∈ PathStep.member name :: place, step.Plain) :
    flatKeyToJsonPointer (keyOf (.member name :: place)) =
      .ok (pointerOf (name :: place.map PathStep.token)) := by
  obtain ⟨hname, hplace⟩ := List.forall_mem_cons.mp hplain
  have hlist := keyOf_member_toList hname.1 place
  have hparts : pointerParts (name.toList ++ place.flatMap stepText).length
      (name.toList ++ place.flatMap stepText) =
        .ok (escapeToken name :: place.map fun step => escapeToken step.token) := by
    have hpos : 0 < name.toList.length :=
      List.length_pos_iff.mpr fun hnil => hname.1 (String.toList_eq_nil_iff.mp hnil)
    obtain ⟨fuel, hfuel⟩ : ∃ k, (name.toList ++ place.flatMap stepText).length = k + 1 :=
      ⟨(name.toList ++ place.flatMap stepText).length - 1, by rw [List.length_append]; omega⟩
    rw [hfuel]
    apply pointerParts_name hname
    apply pointerParts_steps hplace
    rw [List.length_append] at hfuel
    omega
  have hjoined := intercalate_escapeToken name (place.map PathStep.token)
  rw [List.map_map] at hjoined
  rw [flatKeyToJsonPointer, hlist]
  cases hcs : name.toList ++ place.flatMap stepText with
  | nil =>
      rw [List.append_eq_nil_iff] at hcs
      exact absurd (String.toList_eq_nil_iff.mp hcs.1) hname.1
  | cons c cs =>
      dsimp only
      rw [← hcs, hparts]
      exact congrArg (fun joined => Except.ok (String.ofList joined)) hjoined

/-! ## Following a place -/

theorem arrayIndex?_toString (i : ℕ) : arrayIndex? (toString i) = some i := by
  have hlist : (toString i).toList = JsNumber.decimalDigits i := by
    rw [Nat.toString_eq_ofList_toDigits, String.toList_ofList]
    rfl
  have hall : (toString i).toList.all Char.isDigit = true :=
    List.all_eq_true.mpr fun c hc => isDigit_of_mem_toString hc
  have hvalue : JsNumber.digitsValue (toString i).toList = i := by
    rw [hlist, JsNumber.digitsValue_decimalDigits]
  have hcanonical : arrayIndex?.decimalOf (toString i).toList = (toString i).toList := by
    rw [arrayIndex?.decimalOf, hvalue, hlist]
  unfold arrayIndex?
  dsimp only
  rw [if_pos ⟨toString_toList_ne_nil i, hall, hcanonical⟩, hvalue]

theorem Leaf.follow {val : Json} {place : List PathStep} {value : FlatScalar}
    (h : Leaf val place value) :
    follow val (place.map PathStep.token) = some (scalarJson value) := by
  induction h with
  | scalar hv => exact congrArg some hv
  | member hv h ih =>
      rw [List.map_cons, follow_cons, PathStep.token, ownStep, hv]
      exact ih
  | item hv hplace h ih =>
      rw [List.map_cons, follow_cons, PathStep.token, ownStep, arrayIndex?_toString,
        Option.bind_some, hv]
      exact ih

theorem foldl_pointerStep_own {doc v : Json} {tokens : List String}
    (h : Engine.follow doc tokens = some v) :
    tokens.foldl pointerStep (.json doc) = .json v := by
  induction tokens generalizing doc with
  | nil => exact congrArg JsValue.json (Option.some.inj h)
  | cons token tokens ih =>
      rw [follow_cons] at h
      obtain ⟨next, hstep, hrest⟩ := Option.bind_eq_some_iff.mp h
      rw [List.foldl_cons, pointerStep_own hstep]
      exact ih hrest

theorem Leaf.getPointer {val : Json} {place : List PathStep} {value : FlatScalar}
    (h : Leaf val place value) :
    Engine.getPointer val (pointerOf (place.map PathStep.token)) =
      .ok (.json (scalarJson value)) := by
  rw [getPointer_eq_foldl val (pointerOf_valid _), referenceTokens_pointerOf,
    foldl_pointerStep_own h.follow]

/-- The tokens tell the places of one value apart: whether a step is a name or an index
is the value's. -/
theorem Leaf.place_unique {val : Json} {place place' : List PathStep}
    {value value' : FlatScalar} (h : Leaf val place value) (h' : Leaf val place' value')
    (htokens : place.map PathStep.token = place'.map PathStep.token) : place = place' := by
  induction h generalizing place' with
  | scalar hv => exact (List.map_eq_nil_iff.mp htokens.symm).symm
  | member hv h ih =>
      cases h' with
      | member hv' hrest =>
          obtain ⟨hname, htail⟩ := List.cons.inj htokens
          have hsame : _ = _ := hname
          rw [PathStep.token, PathStep.token] at hsame
          subst hsame
          have hvalue := Option.some.inj (hv.symm.trans hv')
          subst hvalue
          rw [ih hrest htail]
      | scalar hv => cases htokens
  | item hv hplace h ih =>
      cases h' with
      | item hv' hplace' hrest =>
          obtain ⟨hindex, htail⟩ := List.cons.inj htokens
          have hsame := congrArg arrayIndex? hindex
          rw [PathStep.token, PathStep.token, arrayIndex?_toString, arrayIndex?_toString,
            Option.some_inj] at hsame
          subst hsame
          have hvalue := Option.some.inj (hv.symm.trans hv')
          subst hvalue
          rw [ih hrest htail]
      | scalar hv => cases htokens

theorem Leaf.exists_member {params : List (String × Json)} {place : List PathStep}
    {value : FlatScalar} (h : Leaf (.obj params) place value) :
    ∃ name rest, place = .member name :: rest := by
  cases h with
  | scalar hv =>
      cases value with
      | str text => cases hv
      | num n => cases hv
      | bool b => cases hv
      | null => cases hv
  | member hv h => exact ⟨_, _, rfl⟩

/-! ## Plain names -/

/-- Every key that decodes is the pointer to its value. -/
def KeysDecode (params : List (String × Json)) : Prop :=
  ∀ key value, (flattenParams params).1.get? key = some value →
    ∀ pointer, flatKeyToJsonPointer key = .ok pointer →
      getPointer (.obj params) pointer = .ok (.json (scalarJson value))

/-- No two scalars within the depth have one key. -/
def KeysUnique (params : List (String × Json)) : Prop :=
  ∀ place place' value value', Leaf (.obj params) place value →
    Leaf (.obj params) place' value' → place.length ≤ flattenMaxDepth →
      place'.length ≤ flattenMaxDepth → keyOf place = keyOf place' → place = place'

/-- The names on the way to the scalars within the depth are plain. -/
def PlainParams (params : List (String × Json)) : Prop :=
  ∀ place value, Leaf (.obj params) place value → place.length ≤ flattenMaxDepth →
    ∀ step ∈ place, step.Plain

theorem pointerOf_injective : Function.Injective pointerOf := by
  intro names names' h
  rw [← referenceTokens_pointerOf names, h, referenceTokens_pointerOf]

theorem Leaf.decode {params : List (String × Json)} {place : List PathStep}
    {value : FlatScalar} (h : Leaf (.obj params) place value)
    (hplain : ∀ step ∈ place, step.Plain) :
    flatKeyToJsonPointer (keyOf place) = .ok (pointerOf (place.map PathStep.token)) := by
  obtain ⟨name, rest, rfl⟩ := h.exists_member
  exact flatKeyToJsonPointer_keyOf hplain

theorem keysDecode_of_plain {params : List (String × Json)}
    (hparams : (Json.obj params).Decoded) (hplain : PlainParams params) :
    KeysDecode params := by
  intro key value hget pointer hpointer
  obtain ⟨place, hleaf, hdepth, rfl⟩ := flattenParams_leaf hparams hget
  rw [hleaf.decode (hplain place value hleaf hdepth)] at hpointer
  rw [← Except.ok.inj hpointer]
  exact hleaf.getPointer

theorem keysUnique_of_plain {params : List (String × Json)} (hplain : PlainParams params) :
    KeysUnique params := by
  intro place place' value value' hleaf hleaf' hdepth hdepth' hkey
  have hdecode := hleaf.decode (hplain place value hleaf hdepth)
  rw [hkey, hleaf'.decode (hplain place' value' hleaf' hdepth')] at hdecode
  exact hleaf.place_unique hleaf' (pointerOf_injective (Except.ok.inj hdecode)).symm

/-! ## One member -/

/-- What a walk that has left the own values comes to. -/
def Astray (cur : JsValue) : Prop :=
  cur = .undefined ∨ (∃ name, cur = .builtin name) ∨ cur = .objectPrototype ∨
    cur = .json .null

theorem inherited_astray (token : String) : Astray (inherited [] token) := by
  unfold inherited
  split
  · exact .inr (.inr (.inl rfl))
  · split
    · exact .inr (.inl ⟨_, rfl⟩)
    · exact .inl rfl

theorem Astray.pointerStep {cur : JsValue} (h : Astray cur) (token : String) :
    Astray (pointerStep cur token) := by
  rcases h with rfl | ⟨name, rfl⟩ | rfl | rfl
  · exact .inl rfl
  · exact .inl rfl
  · show Astray (JsValue.member .objectPrototype token)
    unfold JsValue.member
    dsimp only
    split_ifs
    · exact .inr (.inr (.inr rfl))
    · exact inherited_astray token
  · exact .inl rfl

theorem Astray.foldl {cur : JsValue} (h : Astray cur) (tokens : List String) :
    Astray (tokens.foldl Engine.pointerStep cur) := by
  induction tokens generalizing cur with
  | nil => exact h
  | cons token tokens ih => exact ih (h.pointerStep token)

theorem Astray.ne_scalar {cur : JsValue} (h : Astray cur) {value : FlatScalar}
    (hvalue : value ≠ .null) : cur ≠ .json (scalarJson value) := by
  rcases h with rfl | ⟨name, rfl⟩ | rfl | rfl
  · exact nofun
  · exact nofun
  · exact nofun
  · cases value with
    | null => exact absurd rfl hvalue
    | str text => exact nofun
    | num n => exact nofun
    | bool b => exact nofun

theorem slash_notMem_encodePointerToken (tok : List Char) :
    '/' ∉ encodePointerToken tok := by
  have h := slash_not_mem_escapeToken (String.ofList tok)
  rw [escapeToken, String.toList_ofList] at h
  exact h

theorem unescape_digits {cs : List Char} (h : cs.all Char.isDigit = true) :
    unescape cs = cs ∧ '/' ∉ cs := by
  rw [List.all_eq_true] at h
  induction cs with
  | nil => exact ⟨rfl, List.not_mem_nil⟩
  | cons c cs ih =>
      obtain ⟨hc, hrest⟩ := List.forall_mem_cons.mp h
      obtain ⟨hunescape, hslash⟩ := ih hrest
      have htilde : c ≠ '~' := by
        rintro rfl
        exact absurd hc (by decide)
      have hc' : '/' ≠ c := by
        rintro rfl
        exact absurd hc (by decide)
      rw [unescape_cons htilde, hunescape]
      exact ⟨rfl, List.not_mem_cons_of_ne_of_not_mem hc' hslash⟩

/-- The first token that is read off a cut name is another name. -/
theorem pointerParts_first {name : String} (hcut : ¬PlainName name) (hne : name ≠ "")
    {fuel : ℕ} {parts : List (List Char)}
    (h : pointerParts fuel name.toList = .ok parts) :
    ∃ first rest, parts = first :: rest ∧ '/' ∉ first ∧ unescape first ≠ name.toList := by
  cases hlist : name.toList with
  | nil => exact absurd (String.toList_eq_nil_iff.mp hlist) hne
  | cons c cs =>
      rw [hlist] at h
      cases fuel with
      | zero => cases h
      | succ fuel =>
          by_cases hpoint : c = '.'
          · rw [hpoint] at h
            cases h
          by_cases hbracket : c = '['
          · rw [hbracket, pointerParts] at h
            split at h
            · cases h
            · next rest hrest =>
                split_ifs at h with hdigits
                cases htail : pointerParts fuel (skipPoint rest) with
                | error code =>
                    rw [htail] at h
                    cases h
                | ok tail =>
                    rw [htail] at h
                    have hparts := Except.ok.inj h
                    obtain ⟨hunescape, hslash⟩ := unescape_digits hdigits.2
                    refine ⟨_, tail, hparts.symm, hslash, ?_⟩
                    rw [hunescape, hbracket]
                    intro heq
                    have hmem : '[' ∈ cs.takeWhile (· ≠ ']') := by
                      rw [heq]
                      exact List.mem_cons_self
                    exact absurd (List.all_eq_true.mp hdigits.2 _ hmem) (by decide)
          · rw [pointerParts_plain hpoint hbracket] at h
            dsimp only at h
            cases htail : pointerParts fuel (skipPoint (cs.dropWhile fun d =>
                decide (d ≠ '.' ∧ d ≠ '['))) with
            | error code =>
                rw [htail] at h
                cases h
            | ok tail =>
                rw [htail] at h
                have hparts := Except.ok.inj h
                refine ⟨_, tail, hparts.symm, slash_notMem_encodePointerToken _, ?_⟩
                have hunescape : unescape (encodePointerToken
                    (c :: cs.takeWhile fun d => decide (d ≠ '.' ∧ d ≠ '['))) =
                      c :: cs.takeWhile fun d => decide (d ≠ '.' ∧ d ≠ '[') :=
                  unescape_escape _
                rw [hunescape]
                intro heq
                have hall : ∀ d ∈ cs, d ≠ '.' ∧ d ≠ '[' := by
                  intro d hd
                  rw [← (List.cons.inj heq).2] at hd
                  simpa using List.mem_takeWhile_imp hd
                apply hcut
                refine ⟨hne, ?_, ?_⟩
                · rw [hlist]
                  intro hmem
                  rcases List.mem_cons.mp hmem with heq' | hmem
                  · exact hpoint heq'.symm
                  · exact (hall _ hmem).1 rfl
                · rw [hlist]
                  intro hmem
                  rcases List.mem_cons.mp hmem with heq' | hmem
                  · exact hbracket heq'.symm
                  · exact (hall _ hmem).2 rfl

/-- A cut name leads the pointer astray. -/
theorem getPointer_cut {name pointer : String} (hcut : ¬PlainName name) (hne : name ≠ "")
    (h : flatKeyToJsonPointer name = .ok pointer) {value : FlatScalar}
    (hvalue : value ≠ .null) (v : Json) :
    getPointer (.obj [(name, v)]) pointer ≠ .ok (.json (scalarJson value)) := by
  have hnil : name.toList ≠ [] := fun hnil => hne (String.toList_eq_nil_iff.mp hnil)
  obtain ⟨parts, hparts, hpointer⟩ : ∃ parts,
      pointerParts name.toList.length name.toList = .ok parts ∧
        pointer.toList = '/' :: ['/'].intercalate parts := by
    rw [flatKeyToJsonPointer] at h
    split at h
    · next hempty => exact absurd hempty hnil
    · cases hrun : pointerParts name.toList.length name.toList with
      | error code =>
          rw [hrun] at h
          cases h
      | ok parts =>
          rw [hrun] at h
          refine ⟨parts, rfl, ?_⟩
          rw [← Except.ok.inj h, String.toList_ofList]
  obtain ⟨first, rest, rfl, hslash, hfirst⟩ := pointerParts_first hcut hne hparts
  have hplain : ∀ c ∈ first, (c == '/') = false := by
    intro c hc
    rw [beq_eq_false_iff_ne]
    rintro rfl
    exact hslash hc
  obtain ⟨more, hsplit⟩ : ∃ more, (['/'].intercalate (first :: rest)).splitOn '/' =
      first :: more := by
    rw [List.splitOn_eq_splitOnP]
    cases rest with
    | nil =>
        refine ⟨[], ?_⟩
        rw [List.intercalate_singleton]
        exact List.splitOnP_eq_singleton hplain
    | cons next rest =>
        refine ⟨(['/'].intercalate (next :: rest)).splitOnP (· == '/'), ?_⟩
        rw [List.intercalate_cons_cons, List.append_assoc]
        exact List.splitOnP_append_cons_of_forall_mem hplain '/' rfl _
  have hname : pointerToken first ≠ name := by
    rw [pointerToken_eq]
    intro heq
    exact hfirst (by rw [← heq, String.toList_ofList])
  have hstep : pointerStep (.json (.obj [(name, v)])) (pointerToken first) =
      inherited [] (pointerToken first) := by
    have hnone : ownMember [(name, v)] (pointerToken first) = none := by
      simp [ownMember, Ne.symm hname]
    rw [pointerStep, Json.member, hnone]
  have hget : getPointer (.obj [(name, v)]) pointer =
      .ok ((more.map pointerToken).foldl pointerStep
        (inherited [] (pointerToken first))) := by
    rw [getPointer, hpointer]
    show Except.ok (List.foldl pointerStep _ (List.map pointerToken _)) = _
    rw [hsplit, List.map_cons, List.foldl_cons, hstep]
  rw [hget]
  intro heq
  exact ((inherited_astray _).foldl _).ne_scalar hvalue (Except.ok.inj heq)

theorem flattenParams_singleton (name : String) (value : FlatScalar) :
    (flattenParams [(name, scalarJson value)]).1 =
      ScalarRecord.empty.set (namedKey name) value := by
  cases value with
  | null => rfl
  | str text => rfl
  | num n => rfl
  | bool b => rfl

theorem get?_flattenParams_singleton {name key : String} {value value' : FlatScalar}
    (h : (flattenParams [(name, scalarJson value)]).1.get? key = some value') :
    key = namedKey name ∧ value' = value := by
  rw [flattenParams_singleton, ScalarRecord.set] at h
  split_ifs at h
  · cases h
  · rw [ScalarRecord.get?, InsertionMap.get?_set] at h
    split_ifs at h with hkey
    · exact ⟨hkey.symm, (Option.some.inj h).symm⟩
    · cases h

theorem get?_namedKey {name : String} (hproto : namedKey name ≠ "__proto__")
    (value : FlatScalar) :
    (flattenParams [(name, scalarJson value)]).1.get? (namedKey name) = some value := by
  rw [flattenParams_singleton, ScalarRecord.set, if_neg fun hand => hproto hand.1,
    ScalarRecord.get?, InsertionMap.get?_set, if_pos rfl]

/-- Of one member, other than `null`, the key decodes if and only if the name is plain or
its key is refused. -/
theorem keysDecode_singleton_iff {name : String} {value : FlatScalar}
    (hvalue : value ≠ .null) :
    KeysDecode [(name, scalarJson value)] ↔
      PlainName name ∨ name ≠ "" ∧ ∀ pointer, flatKeyToJsonPointer name ≠ .ok pointer := by
  constructor
  · intro h
    by_contra hnot
    obtain ⟨hcut, hread⟩ := not_or.mp hnot
    by_cases hempty : name = ""
    · subst hempty
      have hget := @get?_namedKey "" (by decide) value
      have hpointer : flatKeyToJsonPointer (namedKey "") = .ok "/value" := by decide +kernel
      have hlost : getPointer (.obj [("", scalarJson value)]) "/value" = .ok .undefined := rfl
      exact absurd (hlost.symm.trans (h _ _ hget _ hpointer)) nofun
    · have hnamed : namedKey name = name := if_neg hempty
      have hproto : namedKey name ≠ "__proto__" := by
        rw [hnamed]
        rintro rfl
        exact hcut (by decide)
      obtain ⟨pointer, hpointer⟩ : ∃ pointer, flatKeyToJsonPointer name = .ok pointer := by
        simpa using not_and.mp hread hempty
      have hget := get?_namedKey hproto value
      rw [hnamed] at hget
      exact getPointer_cut hcut hempty hpointer hvalue _ (h _ _ hget _ hpointer)
  · rintro (hplain | ⟨hne, hrefused⟩) key value' hget pointer hpointer
    · obtain ⟨rfl, rfl⟩ := get?_flattenParams_singleton hget
      have hleaf : Leaf (.obj [(name, scalarJson value')]) [.member name] value' :=
        .member (by simp [ownMember]) (.scalar rfl)
      have hdecode := hleaf.decode (List.forall_mem_singleton.mpr hplain)
      have hkey : keyOf [.member name] = namedKey name := rfl
      rw [← hkey, hdecode] at hpointer
      rw [← Except.ok.inj hpointer]
      exact hleaf.getPointer
    · obtain ⟨rfl, -⟩ := get?_flattenParams_singleton hget
      have hnamed : namedKey name = name := if_neg hne
      rw [hnamed] at hpointer
      exact absurd hpointer (hrefused pointer)

end AgentSkeptic.Quick

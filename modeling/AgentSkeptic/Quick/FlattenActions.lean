import AgentSkeptic.Quick.Ingest
import AgentSkeptic.Quick.TableScoring
import AgentSkeptic.Support.InsertionMap

/-!
# Flat parameters

The second half of `quickVerify/ingest.ts` and `quickVerify/canonicalJson.ts`: the
scalars of an action's parameters under their paths, and the actions without those that
repeat an earlier one.
-/

namespace AgentSkeptic.Quick

open AgentSkeptic.Support AgentSkeptic.Engine

/-! ## Records of scalars -/

abbrev FlatScalar := VerificationScalar

def scalarJson : FlatScalar → Json
  | .str value => .str value
  | .num value => .num value
  | .bool value => .bool value
  | .null => .null

/-- An object literal that scalars are assigned to.  Assigning to `__proto__` makes no
member, but `null` takes the prototype away, and from then on `__proto__` is a key like
any other. -/
structure ScalarRecord where
  entries : InsertionMap String FlatScalar
  bare : Bool

namespace ScalarRecord

def empty : ScalarRecord := ⟨.empty, false⟩

/-- `record[key] = value`. -/
def set (record : ScalarRecord) (key : String) (value : FlatScalar) : ScalarRecord :=
  if key = "__proto__" ∧ record.bare = false then
    { record with bare := value = .null }
  else { record with entries := record.entries.set key value }

def get? (record : ScalarRecord) (key : String) : Option FlatScalar :=
  record.entries.get? key

/-- `Object.keys(record)`. -/
def keys (record : ScalarRecord) : List String :=
  (propertyOrder (record.entries.keys.map fun key => (key, .null))).map Prod.fst

def json (record : ScalarRecord) : Json :=
  .obj (propertyOrder (record.entries.entries.map fun e =>
    (e.1, scalarJson e.2)))

end ScalarRecord

/-! ## Flattening -/

structure FlattenState where
  flat : ScalarRecord
  warnings : List String
  n : ℕ

/-- What `walk` does at every node before it looks at the value. -/
def FlattenState.enter (s : FlattenState) (depth : ℕ)
    (inside : FlattenState → FlattenState) : FlattenState :=
  if flattenMaxNodes ≤ s.n then
    { s with warnings := s.warnings ++ ["FLATTEN_NODE_CAP"] }
  else
    let counted := { s with n := s.n + 1 }
    if flattenMaxDepth < depth then counted else inside counted

def setFlat (path : String) (value : FlatScalar) (s : FlattenState) : FlattenState :=
  { s with flat := s.flat.set (if path = "" then "value" else path) value }

def childPath (path key : String) : String :=
  if path = "" then key else path ++ "." ++ key

mutual

def walk (val : Json) (path : String) (depth : ℕ) (s : FlattenState) : FlattenState :=
  match val with
  | .null => s.enter depth (setFlat path .null)
  | .bool value => s.enter depth (setFlat path (.bool value))
  | .num value => s.enter depth (setFlat path (.num value))
  | .str value => s.enter depth (setFlat path (.str value))
  | .arr items => s.enter depth (walkItems items path 0 (depth + 1))
  | .obj members =>
      let walks := (walkMembers members).insertionSort fun a b =>
        utf16Le a.1 b.1 = true
      s.enter depth fun s => walks.foldl (fun s m =>
        m.2 (childPath path m.1) (depth + 1) s) s

/-- Only the elements that are no scalars. -/
def walkItems (items : List Json) (path : String) (i depth : ℕ) (s : FlattenState) :
    FlattenState :=
  match items with
  | [] => s
  | .arr inner :: items =>
      walkItems items path (i + 1) depth
        (walk (.arr inner) (path ++ "[" ++ toString i ++ "]") depth s)
  | .obj members :: items =>
      walkItems items path (i + 1) depth
        (walk (.obj members) (path ++ "[" ++ toString i ++ "]") depth s)
  | _ :: items => walkItems items path (i + 1) depth s

/-- The walk below each member. -/
def walkMembers :
    List (String × Json) → List (String × (String → ℕ → FlattenState → FlattenState))
  | [] => []
  | (key, value) :: members => (key, walk value) :: walkMembers members

end

def flattenParams (params : List (String × Json)) : ScalarRecord × List String :=
  let s := walk (.obj params) "" 0 ⟨.empty, [], 0⟩
  (s.flat, s.warnings)

/-! ## Dropping repeated actions -/

mutual

/-- A member that is `undefined` is left out; a JSON value has none. -/
def stableStringify : Json → String
  | .arr items => "[" ++ ",".intercalate (stableItems items) ++ "]"
  | .obj members =>
      let keyed := (stableMembers members).insertionSort fun a b =>
        utf16Le a.1 b.1 = true
      "\x7b" ++ ",".intercalate (keyed.map fun m => quote m.1 ++ ":" ++ m.2) ++ "\x7d"
  | .null => "null"
  | .bool value => if value then "true" else "false"
  | .num value => value.stringify
  | .str value => quote value

def stableItems : List Json → List String
  | [] => []
  | item :: items => stableStringify item :: stableItems items

def stableMembers : List (String × Json) → List (String × String)
  | [] => []
  | (key, value) :: members => (key, stableStringify value) :: stableMembers members

end

structure UniqueAction where
  toolName : String
  flat : ScalarRecord
  params : List (String × Json)

def uniqueAction (a : RawAction) : UniqueAction :=
  ⟨a.toolName, (flattenParams a.params).1, a.params⟩

def actionKey (a : UniqueAction) : String :=
  stableStringify (.obj [("toolName", .str a.toolName), ("flat", a.flat.json)])

structure DedupedActions where
  unique : List UniqueAction
  droppedWarnings : List String

def dedupeStep (deduped : DedupedActions) (a : RawAction) : DedupedActions :=
  let action := uniqueAction a
  if actionKey action ∈ deduped.unique.map actionKey then
    { deduped with droppedWarnings := deduped.droppedWarnings ++ ["DEDUPE_DROPPED"] }
  else { deduped with unique := deduped.unique ++ [action] }

def dedupeActions (actions : List RawAction) : DedupedActions :=
  actions.foldl dedupeStep ⟨[], []⟩

example : (flattenParams [("b", .arr [.num (.int 1), .obj [("c", .bool true)]]),
    ("a", .obj [("x", .str "y")])]).1.keys = ["a.x", "b[1].c"] := by
  decide +kernel

end AgentSkeptic.Quick

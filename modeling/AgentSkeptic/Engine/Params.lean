import AgentSkeptic.Support.Json
import Mathlib.Data.List.Sort

/-!
# Parameters of a tool call

`jsonPointer.ts` and `canonicalParams.ts`: how a registry entry reads the
parameters of an observed call, and the text by which two observations are
compared.
-/

namespace AgentSkeptic.Engine

open AgentSkeptic.Support

/-! ## JSON pointers -/

/-- `text.replace(/~d/g, by)` for a digit `d`. -/
def replaceEscape (digit by_ : Char) : List Char → List Char
  | [] => []
  | [c] => [c]
  | c :: next :: rest =>
      if c = '~' ∧ next = digit then by_ :: replaceEscape digit by_ rest
      else c :: replaceEscape digit by_ (next :: rest)

def pointerToken (part : List Char) : String :=
  String.ofList (replaceEscape '0' '~' (replaceEscape '1' '/' part))

/-- One token of the walk.  An array answers to canonical indices only, an object
also to inherited names. -/
def pointerStep (cur : JsValue) (tok : String) : JsValue :=
  match cur with
  | .json (.arr items) =>
      match (arrayIndex? tok).bind (items[·]?) with
      | some item => .json item
      | none => .undefined
  | .json (.obj members) => (Json.obj members).member tok
  | .objectPrototype => cur.member tok
  | _ => .undefined

/-- The value at a pointer, or the message of the error thrown for a text that is
not a pointer. -/
def getPointer (doc : Json) (pointer : String) : Except String JsValue :=
  match pointer.toList with
  | [] => .ok (.json doc)
  | '/' :: rest =>
      .ok (((rest.splitOn '/').map pointerToken).foldl pointerStep (.json doc))
  | _ =>
      .error ("Invalid JSON Pointer: must start with /, got " ++ quote pointer)

/-! ## Canonical text -/

mutual

def canonicalJsonForParams : Json → String
  | .null => "null"
  | .bool value => if value then "true" else "false"
  | .num value => value.stringify
  | .str value => quote value
  | .arr items => "[" ++ ",".intercalate (canonicalItems items) ++ "]"
  | .obj members =>
      let keyed := (canonicalMembers members).insertionSort
        fun a b => utf16Le a.1 b.1 = true
      "\x7b" ++ ",".intercalate (keyed.map fun m => quote m.1 ++ ":" ++ m.2) ++
        "\x7d"

def canonicalItems : List Json → List String
  | [] => []
  | item :: items => canonicalJsonForParams item :: canonicalItems items

def canonicalMembers : List (String × Json) → List (String × String)
  | [] => []
  | (key, value) :: members =>
      (key, canonicalJsonForParams value) :: canonicalMembers members

end

example : canonicalJsonForParams (.obj [("b", .arr [.num (.int 1)]), ("a", .null)]) =
    "\x7b\"a\":null,\"b\":[1]\x7d" := by
  decide +kernel

/-! ## Intended effect -/

/-- A template being read: the text so far and what follows an open brace. -/
structure TemplateState where
  done : List Char
  pending : Option (List Char)

/-- The text that stands for a pointer of the template. -/
def renderPointer (params : Json) (pointer : List Char) : List Char :=
  match getPointer params (String.ofList pointer) with
  | .ok .undefined => "MISSING".toList
  | .ok (.json value) => value.stringify.toList
  | .ok .objectPrototype => "\x7b\x7d".toList
  -- `JSON.stringify` of a function is `undefined`.
  | _ => "undefined".toList

def TemplateState.flush (state : TemplateState) : List Char :=
  state.done ++ (state.pending.elim [] ('\x7b' :: ·))

def templateStep (params : Json) (state : TemplateState) (c : Char) :
    TemplateState :=
  if c = '\x7b' then ⟨state.flush, some []⟩
  else
    match state.pending with
    | none => ⟨state.done ++ [c], none⟩
    | some run =>
        if c = '\x7d' then
          if run.head? = some '/' ∧ 2 ≤ run.length then
            ⟨state.done ++ renderPointer params run, none⟩
          else ⟨state.flush ++ [c], none⟩
        else ⟨state.done, some (run ++ [c])⟩

/-- Every `{/pointer}` of the template replaced by the JSON text found there. -/
def renderIntendedEffect (template : String) (params : Json) : String :=
  String.ofList (template.toList.foldl (templateStep params) ⟨[], none⟩).flush

end AgentSkeptic.Engine

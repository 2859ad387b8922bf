import AgentSkeptic.Support.JsNumber

/-!
# JSON values and property access

The values that `JSON.parse` returns, and what JavaScript makes of them:
`typeof`, `String(v)` and `v[key]`.  A property that an object does not have
itself is looked up on the built-in prototypes, so `v["toString"]` is a function
for every object.
-/

namespace AgentSkeptic.Support

/-- The members of an object stand in property order: integer keys ascending,
then the others in insertion order. -/
inductive Json where
  | null
  | bool (value : Bool)
  | num (value : JsNumber)
  | str (value : String)
  | arr (items : List Json)
  | obj (members : List (String × Json))

/-! ## `JSON.stringify` -/

def hexDigit (n : ℕ) : Char := (Nat.toDigits 16 n).headD '0'

def quoteChar (c : Char) : List Char :=
  match c with
  | '"' => ['\\', '"']
  | '\\' => ['\\', '\\']
  | '\n' => ['\\', 'n']
  | '\r' => ['\\', 'r']
  | '\t' => ['\\', 't']
  | c =>
      if c.toNat = 8 then ['\\', 'b']
      else if c.toNat = 12 then ['\\', 'f']
      else if c.toNat < 32 then
        ['\\', 'u', '0', '0', hexDigit (c.toNat / 16), hexDigit (c.toNat % 16)]
      else [c]

/-- `JSON.stringify` of a string. -/
def quote (s : String) : String :=
  String.ofList ('"' :: s.toList.flatMap quoteChar ++ ['"'])

mutual

/-- `JSON.stringify(v)`. -/
def Json.stringify : Json → String
  | .null => "null"
  | .bool value => if value then "true" else "false"
  | .num value => value.stringify
  | .str value => quote value
  | .arr items => "[" ++ ",".intercalate (Json.stringifyItems items) ++ "]"
  | .obj members =>
      "\x7b" ++ ",".intercalate (Json.stringifyMembers members) ++ "\x7d"

def Json.stringifyItems : List Json → List String
  | [] => []
  | item :: items => Json.stringify item :: Json.stringifyItems items

def Json.stringifyMembers : List (String × Json) → List String
  | [] => []
  | (key, value) :: members =>
      (quote key ++ ":" ++ Json.stringify value) :: Json.stringifyMembers members

end

/-! ## Values -/

/-- A value the code can hold when it reads a property of a JSON value, or a
field of a row or document that a driver hands over. -/
inductive JsValue where
  | undefined
  | json (value : Json)
  | bigint (value : ℤ)
  /-- A `Date`: what `toISOString` returns, unless it is invalid. -/
  | date (iso : Option String)
  /-- Any other object of a driver: what `String(v)` returns, unless that throws. -/
  | opaqueObject (text : Option String)
  /-- A built-in function found on a prototype. -/
  | builtin (name : String)
  /-- `Object.prototype`, which `v.__proto__` of an object without such a member
  yields. -/
  | objectPrototype

namespace JsValue

/-- `v === null || v === undefined`. -/
def isNullish : JsValue → Bool
  | undefined | json .null => true
  | _ => false

/-- Whether `if (v)` takes the branch. -/
def truthy : JsValue → Bool
  | undefined | json .null | json (.bool false) | json (.str "") => false
  | json (.num n) => n ≠ .int 0
  | bigint value => value ≠ 0
  | _ => true

end JsValue

mutual

/-- `String(v)`; `none` when an object's own `toString` member makes it throw. -/
def Json.toText : Json → Option String
  | .null => some "null"
  | .bool value => some (if value then "true" else "false")
  | .num value => some value.toText
  | .str value => some value
  | .arr items => (Json.itemsText items).map (",".intercalate ·)
  | .obj members =>
      if members.any (·.1 == "toString") then none else some "[object Object]"

/-- The parts that `Array.prototype.join` puts together. -/
def Json.itemsText : List Json → Option (List String)
  | [] => some []
  | item :: items => do
      let text ← Json.toText item
      let part := match item with
        | .null => ""
        | _ => text
      let parts ← Json.itemsText items
      pure (part :: parts)

end

/-- `String(v)`. -/
def JsValue.toText : JsValue → Option String
  | undefined => some "undefined"
  | json value => value.toText
  | bigint value => some (toString value)
  | date iso => some (iso.getD "Invalid Date")
  | opaqueObject text => text
  | builtin name => some ("function " ++ name ++ "() { [native code] }")
  | objectPrototype => some "[object Object]"

/-! ## Property access -/

def objectPrototypeNames : List String :=
  ["constructor", "__defineGetter__", "__defineSetter__", "hasOwnProperty",
    "__lookupGetter__", "__lookupSetter__", "isPrototypeOf",
    "propertyIsEnumerable", "toString", "valueOf", "toLocaleString"]

def arrayPrototypeNames : List String :=
  ["at", "concat", "copyWithin", "fill", "find", "findIndex", "findLast",
    "findLastIndex", "lastIndexOf", "pop", "push", "reverse", "shift",
    "unshift", "slice", "sort", "splice", "includes", "indexOf", "join",
    "keys", "entries", "values", "forEach", "filter", "flat", "flatMap", "map",
    "every", "some", "reduce", "reduceRight", "toReversed", "toSorted",
    "toSpliced", "with"]

def stringPrototypeNames : List String :=
  ["anchor", "at", "big", "blink", "bold", "charAt", "charCodeAt",
    "codePointAt", "concat", "endsWith", "fontcolor", "fontsize", "fixed",
    "includes", "indexOf", "isWellFormed", "italics", "lastIndexOf", "link",
    "localeCompare", "match", "matchAll", "normalize", "padEnd", "padStart",
    "repeat", "replace", "replaceAll", "search", "slice", "small", "split",
    "strike", "sub", "substr", "substring", "sup", "startsWith",
    "toWellFormed", "trim", "trimStart", "trimLeft", "trimEnd", "trimRight",
    "toLocaleLowerCase", "toLocaleUpperCase", "toLowerCase", "toUpperCase"]

def numberPrototypeNames : List String :=
  ["toExponential", "toFixed", "toPrecision"]

/-- A property that a value inherits, given the names its own prototype adds to
`Object.prototype`. -/
def inherited (names : List String) (key : String) : JsValue :=
  if key = "__proto__" then .objectPrototype
  else if key ∈ names ∨ key ∈ objectPrototypeNames then
    .builtin (if key = "constructor" then "Object" else key)
  else .undefined

/-- The decimal array index a key stands for. -/
def arrayIndex? (key : String) : Option ℕ :=
  let cs := key.toList
  if cs ≠ [] ∧ cs.all Char.isDigit ∧ decimalOf cs = cs then
    some (JsNumber.digitsValue cs)
  else none
where
  decimalOf (cs : List Char) : List Char :=
    JsNumber.decimalDigits (JsNumber.digitsValue cs)

/-- An own member of an object. -/
def ownMember (members : List (String × Json)) (key : String) : Option Json :=
  (members.find? (·.1 == key)).map (·.2)

/-- `v[key]` for a JSON value other than `null`. -/
def Json.member (v : Json) (key : String) : JsValue :=
  match v with
  | .null => .undefined
  | .bool _ => inherited [] key
  | .num _ => inherited numberPrototypeNames key
  | .str text =>
      if key = "length" then .json (.num (.int (utf16 text).length))
      else
        -- Half of a surrogate pair reads as NUL.
        match (arrayIndex? key).bind ((utf16 text)[·]?) with
        | some unit => .json (.str (String.singleton (Char.ofNat unit)))
        | none => inherited stringPrototypeNames key
  | .arr items =>
      if key = "length" then .json (.num (.int items.length))
      else
        match (arrayIndex? key).bind (items[·]?) with
        | some item => .json item
        | none => inherited arrayPrototypeNames key
  | .obj members =>
      match ownMember members key with
      | some value => .json value
      | none => inherited [] key

/-- `v[key]` for `v` that is not nullish: the members of driver objects and of
functions do not matter where the code reads them. -/
def JsValue.member (v : JsValue) (key : String) : JsValue :=
  match v with
  | json value => value.member key
  | objectPrototype => if key = "__proto__" then .json .null else inherited [] key
  | _ => inherited [] key

/-- `v?.[key]`. -/
def JsValue.optionalMember (v : JsValue) (key : String) : JsValue :=
  if v.isNullish then .undefined else v.member key

/-- `target[key] = value` on an object literal, for a value that is not an
object: assigning to `__proto__` creates no member. -/
def assignMember {α : Type} (members : List (String × α)) (key : String)
    (value : α) : List (String × α) :=
  if key = "__proto__" then members
  else if members.any (·.1 == key) then
    members.map fun m => if m.1 = key then (key, value) else m
  else members ++ [(key, value)]

theorem ownMember_eq_some {members : List (String × Json)} {key : String}
    {value : Json} (h : ownMember members key = some value) :
    (key, value) ∈ members := by
  obtain ⟨m, hm, rfl⟩ := Option.map_eq_some_iff.mp h
  have hkey : m.1 = key := by
    simpa using List.find?_some hm
  subst hkey
  exact List.mem_of_find?_eq_some hm

end AgentSkeptic.Support

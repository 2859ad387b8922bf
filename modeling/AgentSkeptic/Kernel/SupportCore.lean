import AgentSkeptic.Support.AsciiText
import AgentSkeptic.Support.PyValues

/-!
# The Python kernel's shared functions

`support_core.py`.
-/

namespace AgentSkeptic.Kernel

open AgentSkeptic.Support

/-- `json.dumps` of a scalar, with `ensure_ascii=False`. -/
def dumpsScalar : PyScalar → String
  | .none => "null"
  | .bool value => if value then "true" else "false"
  | .num value => String.ofList value.dumps
  | .str value => quote value

mutual

/-- Keys are sorted by code points and, unlike the values, written in ASCII. -/
def canonicalJsonForParams : PyValue → String
  | .scalar value => dumpsScalar value
  | .arr items => "[" ++ ",".intercalate (canonicalItems items) ++ "]"
  | .obj members =>
      let keys := keySort codePointOrder (canonicalMembers members)
      "\x7b" ++ ",".intercalate (keys.map fun m => asciiQuote m.1 ++ ":" ++ m.2) ++ "\x7d"

def canonicalItems : List PyValue → List String
  | [] => []
  | item :: items => canonicalJsonForParams item :: canonicalItems items

def canonicalMembers : List (String × PyValue) → List (String × String)
  | [] => []
  | (key, value) :: members => (key, canonicalJsonForParams value) :: canonicalMembers members

end

end AgentSkeptic.Kernel

import AgentSkeptic.Support.JsonText

/-!
# Comparing an expected scalar with a stored value

`valueVerification.ts`.  `scalarMatches` is the outcome of the comparison;
`verificationScalarsEqual` adds the two display texts of a mismatch, and fails
where `String(actual)` throws.
-/

namespace AgentSkeptic.Engine

open AgentSkeptic.Support

inductive VerificationScalar where
  | str (value : String)
  | num (value : JsNumber)
  | bool (value : Bool)
  | null
  deriving DecidableEq

/-- `Number.MAX_SAFE_INTEGER`. -/
def maxSafeInteger : ℤ := 2 ^ 53 - 1

def canonicalVerificationDisplayForExpected : VerificationScalar → String
  | .null => "null"
  | .bool value => if value then "true" else "false"
  | .num value => value.toText
  | .str value => quote value

/-- `none` when `String(actual)` throws. -/
def canonicalVerificationDisplayForActual (actual : JsValue) : Option String :=
  match actual with
  | .undefined | .json .null => some "null"
  | .json (.bool value) => some (if value then "true" else "false")
  | .json (.num value) => some value.toText
  | .json (.str value) => some (quote value)
  | .bigint value => some (quote (toString value))
  | .date (some iso) => some (quote iso)
  | actual => actual.toText.map quote

/-- Whether the comparison answers `ok`. -/
def scalarMatches (expected : VerificationScalar) (actual : JsValue) : Bool :=
  match expected with
  | .null => actual.isNullish
  | .bool value =>
      match actual with
      | .json (.bool stored) => stored = value
      | .json (.num stored) => stored = .int (if value then 1 else 0)
      | _ => false
  | .num value =>
      value.isFinite &&
      match actual with
      | .json (.num stored) => stored.isFinite && stored = value
      | .bigint stored =>
          value = .int stored && -maxSafeInteger ≤ stored && stored ≤ maxSafeInteger
      | .json (.str text) =>
          match parseJson (trimChars text.toList) with
          | some (.num parsed) =>
              parsed.isFinite && parsed = value &&
                parsed.stringify = value.stringify
          | _ => false
      | _ => false
  | .str value =>
      let e := jsTrim value
      match actual with
      | .json (.str stored) => jsTrim stored = e
      | .json (.num stored) => stored.isFinite && e = stored.stringify
      | .json (.bool stored) => e = if stored then "true" else "false"
      | .date (some iso) => e = iso
      | _ => false

inductive VerificationCompareResult where
  | ok
  | mismatch (expected actual : String)

/-- The message of the `TypeError` that `String(v)` throws. -/
def cannotConvert : String := "Cannot convert object to primitive value"

def verificationScalarsEqual (expected : VerificationScalar) (actual : JsValue) :
    Except String VerificationCompareResult :=
  if scalarMatches expected actual then .ok .ok
  else
    match canonicalVerificationDisplayForActual actual with
    | some text =>
        .ok (.mismatch (canonicalVerificationDisplayForExpected expected) text)
    | none => .error cannotConvert

theorem verificationScalarsEqual_ok_iff {expected : VerificationScalar}
    {actual : JsValue} :
    verificationScalarsEqual expected actual = .ok .ok ↔
      scalarMatches expected actual = true := by
  unfold verificationScalarsEqual
  constructor
  · intro h
    by_contra hmatch
    rw [if_neg hmatch] at h
    split at h
    · cases h
    · cases h
  · intro hmatch
    rw [if_pos hmatch]

end AgentSkeptic.Engine

import AgentSkeptic.Support.JsonRoundTrip

/-!
# The pending-claim cookie

`lib/ossClaimPendingCookie.ts`: an envelope with the hash of a claim secret and
the seconds in which it is valid, as JSON in base64url, a dot, and its HMAC.  A
handoff signs it, and a redeem reads it back.
-/

namespace AgentSkeptic.Hosted.OssClaim

open AgentSkeptic.Support

/-- What `node:crypto` and `Buffer` contribute: the HMAC under the key of the
deployment, and base64url both ways. -/
structure CookieCrypto where
  hmacSha256 : Bytes → Bytes
  base64urlEncode : Bytes → String
  base64urlDecode : String → Bytes

def OSS_PENDING_CLAIM_COOKIE_NAME : String := "__Host-as_pc_v1"

def OSS_PENDING_CLAIM_PAYLOAD_MAX_UTF8 : ℕ := 512

def OSS_PENDING_CLAIM_SET_COOKIE_MAX_BYTES : ℕ := 3500

/-- `v` is always 1. -/
structure OssPendingEnvelopeV1 where
  h : String
  nbf : JsNumber
  exp : JsNumber

def isLowerHexDigit (c : Char) : Bool :=
  ('0' ≤ c && c ≤ '9') || ('a' ≤ c && c ≤ 'f')

/-- `/^[0-9a-f]{64}$/`. -/
def isHex64 (s : String) : Bool := s.toList.length == 64 && s.toList.all isLowerHexDigit

/-- `Buffer.byteLength(s, "utf8")`. -/
def byteLength (s : String) : ℕ := (utf8Encode s.toList).length

/-- `Math.floor(ms / 1000)`. -/
def secondsOf (ms : ℤ) : ℤ := ms / 1000

def buildSetCookiePendingHeader (value : String) (maxAgeSec : ℤ) : String :=
  OSS_PENDING_CLAIM_COOKIE_NAME ++ "=" ++ value ++
    "; HttpOnly; Secure; Path=/; SameSite=Lax; Max-Age=" ++ (JsNumber.int maxAgeSec).toText

/-! ## Signing -/

/-- `JSON.stringify(payload)` in UTF-8. -/
def payloadBytes (h : String) (nbf exp : ℤ) : Bytes :=
  utf8Encode (Json.stringify (.obj
    [("v", .num (.int 1)), ("h", .str h), ("nbf", .num (.int nbf)),
      ("exp", .num (.int exp))])).toList

def joinWithDot (c : CookieCrypto) (payload : Bytes) : String :=
  c.base64urlEncode payload ++ "." ++ c.base64urlEncode (c.hmacSha256 payload)

/-- The value of the cookie and its `Max-Age`; `now` is `Date.now()`. -/
def signPendingEnvelopeV1 (c : CookieCrypto) (h : String) (expiresAtTicket now : ℤ) :
    Option (String × ℤ) :=
  let nowSec := secondsOf now
  let nbf := nowSec - 30
  let exp := min (nowSec + 900) (secondsOf expiresAtTicket - 60)
  let payload := payloadBytes h nbf exp
  let cookieValue := joinWithDot c payload
  let maxAgeSec := max 1 (exp - nowSec)
  if !isHex64 h then none
  else if exp ≤ nbf + 60 then none
  else if OSS_PENDING_CLAIM_PAYLOAD_MAX_UTF8 < payload.length then none
  else if OSS_PENDING_CLAIM_SET_COOKIE_MAX_BYTES <
      byteLength (buildSetCookiePendingHeader cookieValue maxAgeSec) then none
  else some (cookieValue, maxAgeSec)

/-! ## Verifying -/

/-- `i < n` for an integer and a number. -/
def intLt (i : ℤ) : JsNumber → Bool
  | .infinity negative => !negative
  | n => (i : ℚ) < n.toRat

/-- `i > n`. -/
def intGt (i : ℤ) : JsNumber → Bool
  | .infinity negative => negative
  | n => n.toRat < (i : ℚ)

/-- What stands before and after the first dot, where neither is empty. -/
def splitAtDot (s : String) : Option (String × String) :=
  let before := s.toList.takeWhile (· != '.')
  match s.toList.dropWhile (· != '.') with
  | [] => none
  | _ :: after =>
      if before = [] ∨ after = [] then none
      else some (String.ofList before, String.ofList after)

/-- `JSON.parse` of the payload, and the tests of its shape. -/
def readPayload (payload : Bytes) : Option OssPendingEnvelopeV1 :=
  match parseJson (utf8Decode payload) with
  | some (.obj members) =>
      match ownMember members "v", ownMember members "h", ownMember members "nbf",
        ownMember members "exp" with
      | some (.num v), some (.str h), some (.num nbf), some (.num exp) =>
          if v = .int 1 ∧ isHex64 h = true then
            some ⟨String.ofList (h.toList.map Char.toLower), nbf, exp⟩
          else none
      | _, _, _, _ => none
  | _ => none

/-- `nowSec` is in the window of the envelope. -/
def inWindow (env : OssPendingEnvelopeV1) (nowSec : ℤ) : Bool :=
  !(intLt nowSec env.nbf || intGt nowSec env.exp)

def verifyPendingEnvelopeV1 (c : CookieCrypto) (cookieValue : String) (now : ℤ) :
    Option OssPendingEnvelopeV1 :=
  match splitAtDot (jsTrim cookieValue) with
  | none => none
  | some (encPayload, encSig) =>
      let payload := c.base64urlDecode encPayload
      if c.base64urlDecode encSig ≠ c.hmacSha256 payload then none
      else
        match readPayload payload with
        | none => none
        | some env => if inWindow env (secondsOf now) then some env else none

/-- The cookie carries the envelope, with the HMAC of the bytes it was read from. -/
def Signed (c : CookieCrypto) (cookieValue : String) (env : OssPendingEnvelopeV1) :
    Prop :=
  ∃ encPayload encSig, splitAtDot (jsTrim cookieValue) = some (encPayload, encSig) ∧
    c.base64urlDecode encSig = c.hmacSha256 (c.base64urlDecode encPayload) ∧
    readPayload (c.base64urlDecode encPayload) = some env

/-- A cookie is accepted exactly where it is signed and in its window. -/
theorem verifyPendingEnvelopeV1_eq_some_iff (c : CookieCrypto) (cookieValue : String)
    (now : ℤ) (env : OssPendingEnvelopeV1) :
    verifyPendingEnvelopeV1 c cookieValue now = some env ↔
      Signed c cookieValue env ∧ inWindow env (secondsOf now) = true := by
  constructor
  · intro h
    unfold verifyPendingEnvelopeV1 at h
    cases hsplit : splitAtDot (jsTrim cookieValue) with
    | none => simp [hsplit] at h
    | some parts =>
        obtain ⟨encPayload, encSig⟩ := parts
        simp only [hsplit] at h
        split_ifs at h with hmac
        have hsig := not_not.mp hmac
        cases hread : readPayload (c.base64urlDecode encPayload) with
        | none => simp [hread] at h
        | some env' =>
            simp only [hread] at h
            split_ifs at h with hwindow
            obtain rfl := Option.some.inj h
            exact ⟨⟨encPayload, encSig, hsplit, hsig, hread⟩, hwindow⟩
  · rintro ⟨⟨encPayload, encSig, hsplit, hsig, hread⟩, hwindow⟩
    simp only [verifyPendingEnvelopeV1, hsplit, hsig, ne_eq, not_true_eq_false, if_false,
      hread, hwindow, if_true]

end AgentSkeptic.Hosted.OssClaim

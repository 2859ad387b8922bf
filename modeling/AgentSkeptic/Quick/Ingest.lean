import AgentSkeptic.Support.JsonText

/-!
# Ingesting tool activity

`quickVerify/ingest.ts`: a ladder of four readings of one text, the whole text as
JSON, its lines, and the balanced braces in it, that stops at the first reading with
an action.  A text is a list of characters; the regular expressions of the code are
written out as functions that drop what they match.
-/

namespace AgentSkeptic.Quick

open AgentSkeptic.Support

/-! ## Limits -/

def maxInputBytes : ℕ := 8388608

def maxActions : ℕ := 50

/-! ## Actions -/

structure RawAction where
  toolName : String
  params : List (String × Json)

/-- A non-empty string. -/
def nonEmptyText : Option Json → Option String
  | some (.str text) => if text = "" then none else some text
  | _ => none

def objectMembers : Option Json → Option (List (String × Json))
  | some (.obj members) => some members
  | _ => none

/-- The first of `toolId`, `tool`, `name`, `function.name` and `action` that holds a
non-empty string. -/
def getToolNameKey (obj : List (String × Json)) : Option String :=
  (nonEmptyText (ownMember obj "toolId")).or <|
    (nonEmptyText (ownMember obj "tool")).or <|
    (nonEmptyText (ownMember obj "name")).or <|
    ((objectMembers (ownMember obj "function")).bind fun fn =>
      nonEmptyText (ownMember fn "name")).or <|
    nonEmptyText (ownMember obj "action")

/-- An object, as it is or as the JSON text of a string. -/
def paramBag : Option Json → Option (List (String × Json))
  | some (.obj members) => some members
  | some (.str text) =>
      match trimChars text.toList with
      | '\x7b' :: rest => objectMembers (parseJson ('\x7b' :: rest))
      | _ => none
  | _ => none

def tryParseFunctionArgumentsField (fn : List (String × Json)) :
    Option (List (String × Json)) := paramBag (ownMember fn "arguments")

def tryOpenAiToolCallParamBag (obj : List (String × Json)) :
    Option (List (String × Json)) := do
  let fn ← objectMembers (ownMember obj "function")
  let _ ← nonEmptyText (ownMember fn "name")
  tryParseFunctionArgumentsField fn

/-- The keys that the copy of an object leaves out.  Assigning to `__proto__` makes no
member of the copy. -/
def skippedKeys : List String :=
  ["tool_calls", "toolId", "tool", "name", "action", "function", "__proto__"]

def getParamsObject (obj : List (String × Json)) : List (String × Json) :=
  ((tryOpenAiToolCallParamBag obj).or <|
    (paramBag (ownMember obj "params")).or <|
    (paramBag (ownMember obj "arguments")).or <|
    (paramBag (ownMember obj "input")).or <|
    (objectMembers (ownMember obj "function")).bind
      tryParseFunctionArgumentsField).getD
  (obj.filter fun m => !skippedKeys.contains m.1)

structure IngestContext where
  actions : List RawAction
  reasonCodes : List String
  malformedLineCount : ℕ

def createIngestContext : IngestContext := ⟨[], [], 0⟩

def pushAction (ctx : IngestContext) (action : RawAction) : IngestContext :=
  if maxActions ≤ ctx.actions.length then
    if ctx.reasonCodes.contains "INGEST_ACTION_CAP" then ctx
    else { ctx with reasonCodes := ctx.reasonCodes ++ ["INGEST_ACTION_CAP"] }
  else { ctx with actions := ctx.actions ++ [action] }

/-- The action that an object itself is. -/
def ownAction (obj : List (String × Json)) : Option RawAction :=
  (getToolNameKey obj).map fun toolName => ⟨toolName, getParamsObject obj⟩

mutual

def extractActions (ctx : IngestContext) : Json → IngestContext
  | .arr items => extractItems ctx items
  | .obj members =>
      (ownAction members).elim (extractToolCalls ctx members)
        (pushAction (extractToolCalls ctx members))
  | _ => ctx

def extractItems (ctx : IngestContext) : List Json → IngestContext
  | [] => ctx
  | item :: items => extractItems (extractActions ctx item) items

/-- The elements of `obj.tool_calls` when that is an array. -/
def extractToolCalls (ctx : IngestContext) : List (String × Json) → IngestContext
  | [] => ctx
  | (key, .arr items) :: members =>
      if key = "tool_calls" then extractItems ctx items
      else extractToolCalls ctx members
  | (key, _) :: members =>
      if key = "tool_calls" then ctx else extractToolCalls ctx members

end

/-! ## Control sequences -/

/-- A digit, a semicolon or a question mark. -/
def isCsiParameter (c : Char) : Bool := c.isDigit || c == ';' || c == '?'

/-- White space, a hyphen or a slash: the class that the code writes is not a range. -/
def isCsiIntermediate (c : Char) : Bool := isJsWhitespace c || c == '-' || c == '/'

def isCsiFinal (c : Char) : Bool := '@' ≤ c && c ≤ '~'

/-- How many characters a control sequence takes behind its ESC. -/
def csiLength : List Char → Option ℕ
  | '[' :: cs =>
      let parameters := cs.takeWhile isCsiParameter
      let rest := cs.dropWhile isCsiParameter
      let intermediates := rest.takeWhile isCsiIntermediate
      match rest.dropWhile isCsiIntermediate with
      | c :: _ =>
          if isCsiFinal c then some (parameters.length + intermediates.length + 2)
          else none
      | [] => none
  | _ => none

/-- The text without control sequences, after `skip` more characters of one. -/
def stripFrom : ℕ → List Char → List Char
  | _, [] => []
  | skip + 1, _ :: cs => stripFrom skip cs
  | 0, c :: cs =>
      match if c = '\u001b' then csiLength cs else none with
      | some length => stripFrom length cs
      | none => c :: stripFrom 0 cs

def stripAnsiCsi (buffer : List Char) : List Char := stripFrom 0 buffer

/-! ## Prefixes of a line -/

def dropDigits : ℕ → List Char → Option (List Char)
  | 0, cs => some cs
  | n + 1, c :: cs => if c.isDigit then dropDigits n cs else none
  | _ + 1, [] => none

def dropOne (test : Char → Bool) : List Char → Option (List Char)
  | c :: cs => if test c then some cs else none
  | [] => none

def dropSpaces (cs : List Char) : Option (List Char) :=
  match cs with
  | c :: _ => if isJsWhitespace c then some (cs.dropWhile isJsWhitespace) else none
  | [] => none

/-- A point and digits, when they are there. -/
def dropFraction : List Char → List Char
  | '.' :: c :: cs =>
      if c.isDigit then cs.dropWhile Char.isDigit else '.' :: c :: cs
  | cs => cs

/-- `Z` or an offset, when it is there. -/
def dropZone (cs : List Char) : List Char :=
  match cs with
  | 'Z' :: rest => rest
  | c :: rest =>
      if c = '+' ∨ c = '-' then
        ((dropDigits 2 rest).bind fun rest =>
          dropDigits 2 ((dropOne (· == ':') rest).getD rest)).getD cs
      else cs
  | [] => []

/-- A line behind a time stamp. -/
def logPrefixTime (line : List Char) : Option (List Char) := do
  let cs ← dropDigits 4 line
  let cs ← dropOne (· == '-') cs
  let cs ← dropDigits 2 cs
  let cs ← dropOne (· == '-') cs
  let cs ← dropDigits 2 cs
  let cs ← dropOne (fun c => c == 'T' || c == ' ') cs
  let cs ← dropDigits 2 cs
  let cs ← dropOne (· == ':') cs
  let cs ← dropDigits 2 cs
  let cs ← dropOne (· == ':') cs
  let cs ← dropDigits 2 cs
  dropSpaces (dropZone (dropFraction cs))

def dropWord : List Char → List Char → Option (List Char)
  | [], cs => some cs
  | w :: word, c :: cs => if c.toUpper = w then dropWord word cs else none
  | _ :: _, [] => none

/-- A line behind a level, in any case. -/
def logPrefixLevel (line : List Char) : Option (List Char) :=
  ["DEBUG", "INFO", "WARN", "WARNING", "ERROR", "TRACE"].findSome? fun level =>
    (dropWord level.toList line).bind dropSpaces

/-- A line behind a bracket of 1 to 64 code units. -/
def logPrefixBracket : List Char → Option (List Char)
  | '[' :: cs =>
      let inside := cs.takeWhile (· != ']')
      let units := (inside.flatMap utf16Char).length
      if 1 ≤ units ∧ units ≤ 64 then
        (dropOne (· == ']') (cs.dropWhile (· != ']'))).bind dropSpaces
      else none
  | _ => none

/-- `JSON.parse`, where `null` counts as a failure too. -/
def tryParse (s : List Char) : Option Json :=
  match parseJson s with
  | some .null => none
  | parsed => parsed

def tryParseLineWithSalvage (line : List Char) : Option Json :=
  let s0 := trimChars line
  if s0 = [] then none
  else
    let s1 := trimChars ((logPrefixTime s0).getD s0)
    (tryParse s1).or <|
      ((logPrefixLevel s1).bind fun s2 => tryParse (trimChars s2)).or <|
      (logPrefixBracket s1).bind fun s3 => tryParse (trimChars s3)

/-! ## Balanced braces -/

/-- Inside a slice: the open braces, the quote of the text that is open, whether the
last character escapes the next one, and the slice so far in reverse. -/
structure ScanState where
  depth : ℕ
  inStr : Option Char
  esc : Bool
  taken : List Char

def ScanState.next (s : ScanState) (ch : Char) : ScanState :=
  let taken := ch :: s.taken
  match s.inStr with
  | some quote =>
      if s.esc then { s with esc := false, taken }
      else if ch = '\\' then { s with esc := true, taken }
      else if ch = quote then { s with inStr := none, taken }
      else { s with taken }
  | none =>
      if ch = '"' ∨ ch = '\'' then { s with inStr := some ch, taken }
      else if ch = '\x7b' then { s with depth := s.depth + 1, taken }
      else if ch = '\x7d' then { s with depth := s.depth - 1, taken }
      else { s with taken }

/-- The loop over the braces and the loop inside a slice as one: `none` is between two
slices. -/
def scanFrom : Option ScanState → List Char → List (List Char)
  | _, [] => []
  | none, ch :: cs =>
      if ch = '\x7b' then scanFrom (some ⟨1, none, false, [ch]⟩) cs
      else scanFrom none cs
  | some s, ch :: cs =>
      if (s.next ch).depth = 0 then (s.next ch).taken.reverse :: scanFrom none cs
      else scanFrom (some (s.next ch)) cs

def scanBalancedJsonObjects (buffer : List Char) : List (List Char) :=
  scanFrom none buffer

/-! ## The ladder -/

structure IngestResult where
  actions : List RawAction
  reasonCodes : List String
  malformedLineCount : ℕ
  inputTooLarge : Bool

def stripMalformedFromReasonCodes (reasonCodes : List String) : List String :=
  reasonCodes.filter (· != "MALFORMED_LINE")

/-- One line of the third rung. -/
def ingestLine (ctx : IngestContext) (line : List Char) : IngestContext :=
  if trimChars line = [] then ctx
  else
    match tryParseLineWithSalvage line with
    | some v => extractActions ctx v
    | none =>
        { ctx with
          malformedLineCount := ctx.malformedLineCount + 1
          reasonCodes := ctx.reasonCodes ++ ["MALFORMED_LINE"] }

def ingestLines (buf : List Char) : IngestContext :=
  (buf.splitOn '\n').foldl ingestLine createIngestContext

/-- The context of the whole text when it has an action. -/
def ingestWhole (buf : List Char) : Option IngestContext := do
  let root ← parseJson buf
  let ctx := extractActions createIngestContext root
  if ctx.actions = [] then none else some ctx

/-- The context of the first slice that has an action. -/
def ingestSlices (buf : List Char) : Option IngestContext :=
  (scanBalancedJsonObjects buf).findSome? ingestWhole

/-- The rungs below the check for an empty text. -/
def ingestLadder (buf : List Char) : IngestResult :=
  match ingestWhole buf with
  | some ctx =>
      { actions := ctx.actions
        reasonCodes := ctx.reasonCodes
        malformedLineCount := ctx.malformedLineCount
        inputTooLarge := false }
  | none =>
      let lineCtx := ingestLines buf
      if lineCtx.actions ≠ [] then
        { actions := lineCtx.actions
          reasonCodes := stripMalformedFromReasonCodes lineCtx.reasonCodes
          malformedLineCount := lineCtx.malformedLineCount
          inputTooLarge := false }
      else
        match ingestSlices buf with
        | some ctx =>
            { actions := ctx.actions
              reasonCodes := stripMalformedFromReasonCodes lineCtx.reasonCodes ++
                ctx.reasonCodes
              malformedLineCount := lineCtx.malformedLineCount
              inputTooLarge := false }
        | none =>
            { actions := []
              reasonCodes :=
                List.replicate lineCtx.malformedLineCount "MALFORMED_LINE" ++
                  ["INGEST_NO_STRUCTURED_TOOL_ACTIVITY"]
              malformedLineCount := lineCtx.malformedLineCount
              inputTooLarge := false }

/-- The text without a byte order mark and control sequences. -/
def ingestBuffer (bufferUtf8 : List Char) : List Char :=
  stripAnsiCsi (match bufferUtf8 with
    | '\uFEFF' :: rest => rest
    | text => text)

def ingestActivityUtf8 (bufferUtf8 : List Char) : IngestResult :=
  if (utf8Encode bufferUtf8).length > maxInputBytes then
    { actions := []
      reasonCodes := ["INGEST_INPUT_TOO_LARGE"]
      malformedLineCount := 0
      inputTooLarge := true }
  else
    let buf := ingestBuffer bufferUtf8
    if trimChars buf = [] then
      { actions := []
        reasonCodes := ["INGEST_NO_ACTIONS"]
        malformedLineCount := 0
        inputTooLarge := false }
    else ingestLadder buf

end AgentSkeptic.Quick

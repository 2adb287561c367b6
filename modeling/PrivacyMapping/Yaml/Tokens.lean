import PrivacyMapping.Yaml.ScalarText

/-!
# From text to tokens

A text is read from left to right into tokens. Two things need memory. The columns of the blocks
that are open tell which blocks a line ends, and which new one it begins. And a scalar, a
collection, an alias or a mark of properties may turn out to be a key, by a colon after it on its
line and within a limit of length; its place is kept, so that the token of the key, and of the block
that it may begin, can be put in front of it when the colon is met.
-/

namespace PrivacyMapping.Yaml

/-- The place of what may turn out to be a key. Where a key is all that can stand, it is `required`.
-/
structure Candidate where
  token : Nat
  index : Nat
  line : Nat
  column : Nat
  required : Bool
  deriving Inhabited

/-- How many characters may lie between the start of a key and its colon. -/
def keyLimit : Nat := 1024

/-- What has been read and what is remembered of it. The tokens are held last first; `outer` holds
the candidates of the flow collections around the innermost one. -/
structure Scan where
  cursor : Cursor
  tokens : List Token := []
  count : Nat := 0
  columns : List Nat := []
  candidate : Option Candidate := none
  outer : List (Option Candidate) := []
  keyAllowed : Bool := true
  deriving Inhabited

namespace Scan

/-- Whether a flow collection is open. -/
def inFlow (scan : Scan) : Bool :=
  !scan.outer.isEmpty

/-- The first column that lies inside the innermost block. -/
def innerColumn (scan : Scan) : Nat :=
  match scan.columns with
  | [] => 0
  | column :: _ => column + 1

def emit (scan : Scan) (token : Token) : Scan :=
  { scan with tokens := token :: scan.tokens, count := scan.count + 1 }

/-- Add a token in front of the one with the given number. -/
def emitAt (scan : Scan) (number : Nat) (token : Token) : Scan :=
  let later := scan.count - number
  { scan with
    tokens := scan.tokens.take later ++ token :: scan.tokens.drop later
    count := scan.count + 1 }

/-- Add a token that takes the given number of characters. -/
def emitOver (scan : Scan) (token : Token) (length : Nat) : Scan :=
  { scan.emit token with cursor := scan.cursor.skip length }

/-! ## Candidates for keys -/

/-- Forget a candidate; a required one must have been a key. -/
def dropCandidate? (scan : Scan) : Option Scan :=
  if scan.candidate.any (·.required) then none else some { scan with candidate := none }

/-- Remember that a key may begin at the cursor, where one is allowed. -/
def noteCandidate? (scan : Scan) : Option Scan :=
  if scan.keyAllowed then do
    let scan ← scan.dropCandidate?
    some { scan with
      candidate := some {
        token := scan.count
        index := scan.cursor.index
        line := scan.cursor.line
        column := scan.cursor.column
        required := !scan.inFlow && scan.columns.head? == some scan.cursor.column } }
  else some scan

/-- A candidate that can still become a key at the given place, or nothing; a required one must. -/
def current? (cursor : Cursor) : Option Candidate → Option (Option Candidate)
  | none => some none
  | some candidate =>
    if candidate.line < cursor.line || candidate.index + keyLimit < cursor.index then
      if candidate.required then none else some none
    else some (some candidate)

/-- Forget the candidates that are too far back. -/
def dropStale? (scan : Scan) : Option Scan := do
  let candidate ← current? scan.cursor scan.candidate
  let outer ← scan.outer.mapM (current? scan.cursor)
  some { scan with candidate, outer }

/-! ## Blocks -/

/-- Begin a block at a column, if it lies inside the innermost one. The token goes in front of the
one with the given number, or to the end. -/
def openBlock (scan : Scan) (column : Nat) (number : Option Nat) (token : Token) : Scan :=
  if scan.inFlow || column < scan.innerColumn then scan
  else
    let scan := { scan with columns := column :: scan.columns }
    match number with
    | some number => scan.emitAt number token
    | none => scan.emit token

/-- Whether a block at a column ends where a line begins at `limit`; at the end of a document all
do. -/
def endsAt (limit : Option Nat) (column : Nat) : Bool :=
  limit.all (· < column)

/-- End the blocks that lie further right than `limit`. -/
def closeBlocks (scan : Scan) (limit : Option Nat) : Scan :=
  if scan.inFlow then scan
  else
    let closed := (scan.columns.takeWhile (endsAt limit)).length
    { scan with
      columns := scan.columns.drop closed
      tokens := List.replicate closed .blockEnd ++ scan.tokens
      count := scan.count + closed }

/-! ## Tokens -/

/-- Pass over blanks, comments and breaks. A tab is no blank where a block may begin. -/
def skipToToken : Nat → Scan → Scan
  | 0, scan => scan
  | n + 1, scan =>
    let tabs := scan.inFlow || !scan.keyAllowed
    let cursor := (scan.cursor.skipWhile fun c => c == ' ' || (tabs && c == '\t')).skipComment
    if cursor.next.any isBreak then
      skipToToken n { scan with
        cursor := cursor.skipBreak
        keyAllowed := scan.keyAllowed || !scan.inFlow }
    else { scan with cursor }

/-- A directive or a marker of a document ends everything that is open. -/
def endDocument? (scan : Scan) : Option Scan := do
  let scan ← (scan.closeBlocks none).dropCandidate?
  some { scan with keyAllowed := false }

def directive? (scan : Scan) : Option Scan := do
  let scan ← scan.endDocument?
  let (token, cursor) ← Token.directive? scan.cursor
  some { scan.emit token with cursor }

def marker? (scan : Scan) (token : Token) : Option Scan := do
  let scan ← scan.endDocument?
  some (scan.emitOver token 3)

def openFlow? (scan : Scan) (token : Token) : Option Scan := do
  let scan ← scan.noteCandidate?
  some ({ scan with
    candidate := none
    outer := scan.candidate :: scan.outer
    keyAllowed := true }.emitOver token 1)

def closeFlow? (scan : Scan) (token : Token) : Option Scan := do
  let scan ← scan.dropCandidate?
  let scan :=
    match scan.outer with
    | [] => scan
    | candidate :: outer => { scan with candidate, outer }
  some ({ scan with keyAllowed := false }.emitOver token 1)

def flowEntry? (scan : Scan) : Option Scan := do
  let scan ← scan.dropCandidate?
  some ({ scan with keyAllowed := true }.emitOver .flowEntry 1)

/-- Begin a block for an entry, a key or a value at the cursor, where one is allowed. -/
def beginEntry? (scan : Scan) (token : Token) : Option Scan :=
  if scan.inFlow then some scan
  else if scan.keyAllowed then some (scan.openBlock scan.cursor.column none token)
  else none

def blockEntry? (scan : Scan) : Option Scan := do
  let scan ← scan.beginEntry? .blockSequenceStart
  let scan ← scan.dropCandidate?
  some ({ scan with keyAllowed := true }.emitOver .blockEntry 1)

def key? (scan : Scan) : Option Scan := do
  let scan ← scan.beginEntry? .blockMappingStart
  let scan ← scan.dropCandidate?
  some ({ scan with keyAllowed := !scan.inFlow }.emitOver .key 1)

/-- The colon of a value. A candidate for a key in front of it becomes one. -/
def value? (scan : Scan) : Option Scan :=
  match scan.candidate with
  | some candidate =>
    let scan := (scan.emitAt candidate.token .key).openBlock candidate.column
      (some candidate.token) .blockMappingStart
    some ({ scan with candidate := none, keyAllowed := false }.emitOver .value 1)
  | none => do
    let scan ← scan.beginEntry? .blockMappingStart
    some ({ scan with keyAllowed := !scan.inFlow }.emitOver .value 1)

/-- A token that may begin a key and after which none begins. -/
def keyPart? (scan : Scan) (read : Cursor → Option (Token × Cursor)) : Option Scan := do
  let scan ← scan.noteCandidate?
  let (token, cursor) ← read scan.cursor
  some { scan.emit token with cursor, keyAllowed := false }

def quoted? (scan : Scan) (single : Bool) : Option Scan :=
  scan.keyPart? fun cursor => do
    let (text, cursor) ← ScalarText.quoted? single cursor
    some (.scalar (String.ofList text) false, cursor)

/-- A plain scalar. A key may begin after it when it ends with a line. -/
def plain? (scan : Scan) : Option Scan := do
  let scan ← scan.noteCandidate?
  let (text, broken, cursor) ← ScalarText.plain? scan.inFlow scan.innerColumn scan.cursor
  some { scan.emit (.scalar (String.ofList text) true) with cursor, keyAllowed := broken }

def block? (scan : Scan) (folded : Bool) : Option Scan := do
  let scan ← scan.dropCandidate?
  let (text, cursor) ← ScalarText.block? folded scan.innerColumn scan.cursor
  some { scan.emit (.scalar (String.ofList text) false) with cursor, keyAllowed := true }

/-- Whether a plain scalar may begin with a character. -/
def beginsPlain (inFlow : Bool) (c : Char) (after : Option Char) : Bool :=
  if c == '-' then !after.any isGap
  else if c == '?' || c == ':' then !inFlow && !endsWord after
  else !(isGap c || isBreak c || isFlowIndicator c ||
    ['#', '&', '*', '!', '|', '>', '\'', '"', '%', '@', '\x60'].contains c)

/-- Read the token that begins with the character at the cursor. -/
def token? (scan : Scan) (c : Char) : Option Scan :=
  let after := scan.cursor.ahead 1
  if scan.cursor.column == 0 && c == '%' then scan.directive?
  else if scan.cursor.atMarker '-' then scan.marker? .documentStart
  else if scan.cursor.atMarker '.' then scan.marker? .documentEnd
  else if c == '[' then scan.openFlow? .flowSequenceStart
  else if c == '{' then scan.openFlow? .flowMappingStart
  else if c == ']' then scan.closeFlow? .flowSequenceEnd
  else if c == '}' then scan.closeFlow? .flowMappingEnd
  else if c == ',' then scan.flowEntry?
  else if c == '-' && endsWord after then scan.blockEntry?
  else if c == '?' && (scan.inFlow || endsWord after) then scan.key?
  else if c == ':' && (scan.inFlow || endsWord after) then scan.value?
  else if c == '*' then
    scan.keyPart? fun cursor => do
      let (name, cursor) ← Token.anchorName? cursor
      some (.alias name, cursor)
  else if c == '&' then
    scan.keyPart? fun cursor => do
      let (name, cursor) ← Token.anchorName? cursor
      some (.anchor name, cursor)
  else if c == '!' then
    scan.keyPart? fun cursor => do
      let (tag, cursor) ← Token.tagText? scan.inFlow cursor
      some (.tag tag, cursor)
  else if c == '|' && !scan.inFlow then scan.block? false
  else if c == '>' && !scan.inFlow then scan.block? true
  else if c == '\'' then scan.quoted? true
  else if c == '"' then scan.quoted? false
  else if beginsPlain scan.inFlow c after then scan.plain?
  else none

/-- Read up to the end of the text. The first argument bounds the number of tokens and is never used
up before the text. -/
def run? : Nat → Scan → Option Scan
  | 0, _ => none
  | n + 1, scan => do
    let scan ← (skipToToken (scan.cursor.rest.length + 1) scan).dropStale?
    let scan := scan.closeBlocks (some scan.cursor.column)
    match scan.cursor.next with
    | none => (scan.closeBlocks none).dropCandidate?
    | some c => run? n (← scan.token? c)

end Scan

def tokens? (text : String) : Option (List Token) := do
  let chars := text.toList
  if chars.all isAllowed then
    let scan ← Scan.run? (chars.length + 1) { cursor := Cursor.ofChars chars }
    some scan.tokens.reverse
  else none

end PrivacyMapping.Yaml

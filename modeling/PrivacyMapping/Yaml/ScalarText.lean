import PrivacyMapping.Yaml.Token

/-!
# The texts of scalars

A scalar is plain, quoted, or a block of lines. Inside plain and quoted scalars the blanks at the
ends of lines are dropped and lines are folded: one break becomes a space, and of several the first
is dropped. A block keeps its lines or folds those that are not indented further. Each part of this
module takes a place in the text and gives the text of the scalar with the place after it.
-/

namespace PrivacyMapping.Yaml.ScalarText

/-! ## Between the words of a scalar -/

/-- What stands between two words of a scalar: the blanks before the first break, that break, and
the breaks after it. -/
structure Gap where
  broken : Bool := false
  blanks : List Char := []
  first : List Char := []
  more : List Char := []

/-- What a gap contributes to the text. -/
def Gap.text (gap : Gap) : List Char :=
  if !gap.broken then gap.blanks
  else if gap.first == ['\n'] then (if gap.more.isEmpty then [' '] else gap.more)
  else gap.first ++ gap.more

/-- Continue a gap to the next word. A tab on a new line before the column `indent` is refused. The
first argument bounds the number of characters and is never used up before them. -/
def readGap? (indent : Nat) : Nat → Gap → Cursor → Option (Gap × Cursor)
  | 0, gap, cursor => some (gap, cursor)
  | n + 1, gap, cursor =>
    match cursor.next with
    | none => some (gap, cursor)
    | some c =>
      if isGap c then
        if !gap.broken then
          readGap? indent n { gap with blanks := gap.blanks ++ [c] } (cursor.skip 1)
        else if c == '\t' && cursor.column < indent then none
        else readGap? indent n gap (cursor.skip 1)
      else if isBreak c then
        let (text, cursor) := cursor.readBreak
        if !gap.broken then readGap? indent n { gap with broken := true, first := text } cursor
        else readGap? indent n { gap with more := gap.more ++ text } cursor
      else some (gap, cursor)

/-! ## Plain scalars -/

/-- The characters of a plain scalar up to a blank, a break, or a mark that ends it. In a flow
collection a colon must not be followed by a separator. -/
def plainWord? (inFlow : Bool) : List Char → Option (List Char)
  | [] => some []
  | c :: rest =>
    if isGap c || isBreak c then some []
    else if inFlow && c == ':' && rest.head?.any (fun c => isFlowIndicator c || c == '?') then none
    else if c == ':' && endsWord rest.head? then some []
    else if inFlow && isFlowIndicator c then some []
    else (plainWord? inFlow rest).map (c :: ·)

/-- The words of a plain scalar from the one at the cursor on, each with the gap before it. The flag
of the result tells whether a break stands before the end. -/
def plainWords? (inFlow : Bool) (indent : Nat) :
    Nat → Gap → Cursor → Option (List Char × Bool × Cursor)
  | 0, gap, cursor => some ([], gap.broken, cursor)
  | n + 1, gap, cursor => do
    if cursor.atDocumentMarker || cursor.next == some '#' then some ([], gap.broken, cursor)
    else
      let word ← plainWord? inFlow cursor.rest
      let after := cursor.skip word.length
      let text := if word.isEmpty then [] else gap.text ++ word
      let gap := if word.isEmpty then gap else {}
      if after.next.any fun c => isGap c || isBreak c then
        let (next, place) ← readGap? indent after.rest.length gap after
        if !inFlow && place.column < indent then some (text, next.broken, place)
        else
          let (more, broken, place) ← plainWords? inFlow indent n next place
          some (text ++ more, broken, place)
      else some (text, gap.broken, after)

/-- A plain scalar that must be indented to the column `indent`. -/
def plain? (inFlow : Bool) (indent : Nat) (cursor : Cursor) :
    Option (List Char × Bool × Cursor) :=
  plainWords? inFlow indent cursor.rest.length {} cursor

/-! ## Quoted scalars -/

/-- The character of a one-letter escape. -/
def namedEscape? (c : Char) : Option Char :=
  match c with
  | '0' => some '\x00'
  | 'a' => some '\x07'
  | 'b' => some '\x08'
  | 't' | '\t' => some '\t'
  | 'n' => some '\n'
  | 'v' => some '\x0b'
  | 'f' => some '\x0c'
  | 'r' => some '\r'
  | 'e' => some '\x1b'
  | ' ' => some ' '
  | '"' => some '"'
  | '/' => some '/'
  | '\\' => some '\\'
  | 'N' => some '\u0085'
  | '_' => some '\u00a0'
  | 'L' => some '\u2028'
  | 'P' => some '\u2029'
  | _ => none

/-- The number of hexadecimal digits after an escape letter. -/
def escapeDigits? (c : Char) : Option Nat :=
  match c with
  | 'x' => some 2
  | 'u' => some 4
  | 'U' => some 8
  | _ => none

/-- The escape after a backslash: its character and the number of characters it takes. -/
def escape? : List Char → Option (Char × Nat)
  | [] => none
  | c :: rest =>
    match namedEscape? c with
    | some char => some (char, 1)
    | none => do
      let length ← escapeDigits? c
      let digits := rest.take length
      let n ← Text.number? 16 digits
      if digits.length = length ∧ n.isValidChar then some (Char.ofNat n, length + 1) else none

/-- Where a run of characters of a quoted scalar ends. -/
inductive WordEnd where
  | quote
  | gap
  | joined

/-- The characters of a quoted scalar up to its closing quote, a blank or break, or an escaped
break. The number of characters taken is part of the result. -/
def quotedWord? (single : Bool) : Nat → List Char → Option (List Char × Nat × WordEnd)
  | 0, _ => none
  | _ + 1, [] => some ([], 0, .gap)
  | n + 1, c :: rest =>
    if isGap c || isBreak c then some ([], 0, .gap)
    else if single && c == '\'' then
      if rest.head? == some '\'' then do
        let (more, taken, ending) ← quotedWord? single n rest.tail
        some ('\'' :: more, taken + 2, ending)
      else some ([], 0, .quote)
    else if !single && c == '"' then some ([], 0, .quote)
    else if !single && c == '\\' then
      if rest.head?.any isBreak then some ([], 1, .joined)
      else do
        let (char, length) ← escape? rest
        let (more, taken, ending) ← quotedWord? single n (rest.drop length)
        some (char :: more, taken + 1 + length, ending)
    else do
      let (more, taken, ending) ← quotedWord? single n rest
      some (c :: more, taken + 1, ending)

/-- The rest of a quoted scalar. A line that marks a document, and the end of the text, are
refused. -/
def quotedWords? (single : Bool) : Nat → Cursor → Option (List Char × Cursor)
  | 0, _ => none
  | n + 1, cursor => do
    if cursor.atDocumentMarker || cursor.next.isNone then none
    else
      let (word, taken, ending) ← quotedWord? single (cursor.rest.length + 1) cursor.rest
      let after := cursor.skip taken
      match ending with
      | .quote => some (word, after.skip 1)
      | .gap =>
        let (gap, place) ← readGap? 0 after.rest.length {} after
        let (more, place) ← quotedWords? single n place
        some (word ++ gap.text ++ more, place)
      | .joined =>
        let after := after.skipBreak
        let (gap, place) ← readGap? 0 after.rest.length { broken := true } after
        let (more, place) ← quotedWords? single n place
        some (word ++ gap.text ++ more, place)

/-- A quoted scalar, in front of whose quote the cursor stands. -/
def quoted? (single : Bool) (cursor : Cursor) : Option (List Char × Cursor) :=
  quotedWords? single (cursor.rest.length + 1) (cursor.skip 1)

/-! ## Blocks of lines -/

/-- What happens to the breaks at the end of a block. -/
inductive Chomping where
  | strip
  | clip
  | keep
  deriving DecidableEq

/-- The chomping that a sign asks for. -/
def chomping? : Option Char → Option Chomping
  | some '+' => some .keep
  | some '-' => some .strip
  | _ => none

/-- The indentation that a digit asks for; zero is refused. -/
def increment? (cursor : Cursor) : Option (Nat × Cursor) :=
  match cursor.next with
  | some c =>
    if c == '0' then none
    else if c.isDigit then some (c.toNat - '0'.toNat, cursor.skip 1)
    else some (0, cursor)
  | none => some (0, cursor)

/-- The chomping and the indentation that the first line of a block asks for, in either order. An
indentation of zero means that none is given. -/
def header? (cursor : Cursor) : Option (Chomping × Nat × Cursor) := do
  match chomping? cursor.next with
  | some chomping =>
    let (increment, cursor) ← increment? (cursor.skip 1)
    some (chomping, increment, cursor)
  | none =>
    let (increment, cursor) ← increment? cursor
    match (if increment = 0 then none else chomping? cursor.next) with
    | some chomping => some (chomping, increment, cursor.skip 1)
    | none => some (.clip, increment, cursor)

/-- The breaks of the empty lines at the cursor, which then stands on the first line that is not
empty, after at most `indent` columns of spaces; without an `indent` it stands after all of them. A
tab within the indentation is refused. The largest column that was reached is part of the result. -/
def emptyLines? (indent : Option Nat) :
    Nat → Nat → Cursor → Option (List Char × Nat × Cursor)
  | 0, deepest, cursor => some ([], deepest, cursor)
  | n + 1, deepest, cursor => do
    let spaces := (cursor.rest.takeWhile (· == ' ')).length
    let cursor := cursor.skip (match indent with
      | some indent => min spaces (indent - cursor.column)
      | none => spaces)
    let deepest := max deepest cursor.column
    if cursor.next == some '\t' && indent.all (cursor.column < ·) then none
    else if cursor.next.any isBreak then
      let (text, cursor) := cursor.readBreak
      let (more, deepest, cursor) ← emptyLines? indent n deepest cursor
      some (text ++ more, deepest, cursor)
    else some ([], deepest, cursor)

/-- The breaks that are pending when a line of a block begins. -/
structure Pending where
  afterBlank : Bool := false
  first : List Char := []
  more : List Char := []

/-- What the pending breaks contribute before a line. Between two lines of a folded block that do
not begin with a blank, a single break becomes a space and the first of several is dropped. -/
def Pending.text (pending : Pending) (folded : Bool) (blankLine : Bool) : List Char :=
  if folded && pending.first == ['\n'] && !pending.afterBlank && !blankLine then
    (if pending.more.isEmpty then [' '] else []) ++ pending.more
  else pending.first ++ pending.more

/-- The lines of a block with the breaks that are pending after the last of them. -/
def blockLines? (folded : Bool) (indent : Nat) :
    Nat → Pending → Cursor → Option (List Char × Pending × Cursor)
  | 0, pending, cursor => some ([], pending, cursor)
  | n + 1, pending, cursor => do
    match cursor.next with
    | none => some ([], pending, cursor)
    | some c =>
      if cursor.column != indent then some ([], pending, cursor)
      else
        let line := cursor.rest.takeWhile fun c => !isBreak c
        let (first, after) := (cursor.skip line.length).readBreak
        let (more, _, after) ← emptyLines? (some indent) (after.rest.length + 1) 0 after
        let (text, last, after) ← blockLines? folded indent n ⟨isGap c, first, more⟩ after
        some (pending.text folded (isGap c) ++ line ++ text, last, after)

/-- A block scalar, in front of whose mark the cursor stands, inside a block whose content begins at
the column `indent` or after it. Without a given indentation the first line that is not empty shows
it. -/
def block? (folded : Bool) (indent : Nat) (cursor : Cursor) : Option (List Char × Cursor) := do
  let (chomping, increment, cursor) ← header? (cursor.skip 1)
  let cursor ← cursor.endLine?
  let given := if increment = 0 then none else some (indent - 1 + increment)
  let (breaks, deepest, cursor) ← emptyLines? given (cursor.rest.length + 1) 0 cursor
  let column := given.getD (max deepest (max indent 1))
  let (text, last, cursor) ←
    blockLines? folded column (cursor.rest.length + 1) { more := breaks } cursor
  let tail :=
    match chomping with
    | .strip => []
    | .clip => last.first
    | .keep => last.first ++ last.more
  some (text ++ tail, cursor)

end PrivacyMapping.Yaml.ScalarText

/-!
# Places in YAML text

The text that is left to read, with the place of its first character. Indentation is counted in
characters from the start of the line, and the length of a key in characters from the start of the
text.
-/

namespace PrivacyMapping.Yaml

/-! ## Classes of characters

The end of the text counts as a blank and as a break, so that the classes are asked of what may be
there. -/

def isBreak (c : Char) : Bool :=
  c == '\n' || c == '\r' || c == '\u0085' || c == '\u2028' || c == '\u2029'

def isGap (c : Char) : Bool :=
  c == ' ' || c == '\t'

/-- Whether a line ends here. -/
def endsLine : Option Char → Bool
  | none => true
  | some c => isBreak c

/-- Whether a word ends here. -/
def endsWord : Option Char → Bool
  | none => true
  | some c => isGap c || isBreak c

/-- Whether a character may stand in the name of an anchor, a directive or a tag handle. -/
def isNameChar (c : Char) : Bool :=
  c.isAlphanum || c == '_' || c == '-'

/-- Whether a character separates the parts of a flow collection. -/
def isFlowIndicator (c : Char) : Bool :=
  c == ',' || c == '[' || c == ']' || c == '{' || c == '}'

/-- Whether a character may stand in a text at all. -/
def isAllowed (c : Char) : Bool :=
  let n := c.toNat
  n == 0x09 || n == 0x0A || n == 0x0D || n == 0x85 || (0x20 ≤ n && n ≤ 0x7E) ||
    (0xA0 ≤ n && n ≤ 0xD7FF) || (0xE000 ≤ n && n ≤ 0xFFFD) || 0x10000 ≤ n

/-! ## Places -/

/-- What is left of a text and where it begins. -/
structure Cursor where
  rest : List Char
  index : Nat := 0
  line : Nat := 0
  column : Nat := 0
  deriving Inhabited

namespace Cursor

def next (cursor : Cursor) : Option Char :=
  cursor.rest.head?

/-- The character some places after the next one. -/
def ahead (cursor : Cursor) (n : Nat) : Option Char :=
  cursor.rest[n]?

def skip (cursor : Cursor) (n : Nat) : Cursor :=
  { cursor with
    rest := cursor.rest.drop n
    index := cursor.index + n
    column := cursor.column + n }

/-- The place at which a text is read first. The mark of its encoding that may stand in front of it
is passed over, but takes up a column of the first line. -/
def ofChars (chars : List Char) : Cursor :=
  let cursor : Cursor := { rest := chars }
  if cursor.next == some '\uFEFF' then cursor.skip 1 else cursor

/-- Pass over characters of the line as long as they are of a class. -/
def skipWhile (cursor : Cursor) (p : Char → Bool) : Cursor :=
  cursor.skip (cursor.rest.takeWhile p).length

def skipToBreak (cursor : Cursor) : Cursor :=
  cursor.skipWhile fun c => !isBreak c

/-- The place at the start of the line after a break of the given length. -/
def nextLine (cursor : Cursor) (length : Nat) : Cursor :=
  { rest := cursor.rest.drop length
    index := cursor.index + length
    line := cursor.line + 1
    column := 0 }

/-- A break with the text that it stands for: the separators of lines and of paragraphs are kept,
and every other break is a line feed. At another place nothing is read. -/
def readBreak (cursor : Cursor) : List Char × Cursor :=
  match cursor.rest with
  | '\r' :: '\n' :: _ => (['\n'], cursor.nextLine 2)
  | c :: _ =>
    if c == '\u2028' || c == '\u2029' then ([c], cursor.nextLine 1)
    else if isBreak c then (['\n'], cursor.nextLine 1)
    else ([], cursor)
  | [] => ([], cursor)

/-- Pass over a break, if there is one. -/
def skipBreak (cursor : Cursor) : Cursor :=
  cursor.readBreak.2

/-- Pass over a comment, if one begins here. -/
def skipComment (cursor : Cursor) : Cursor :=
  if cursor.next == some '#' then cursor.skipToBreak else cursor

/-- Pass over the rest of a line that may hold blanks and a comment, and over its break. -/
def endLine? (cursor : Cursor) : Option Cursor :=
  let cursor := (cursor.skipWhile isGap).skipComment
  if endsLine cursor.next then some cursor.skipBreak else none

/-- Whether a line that begins here marks the start or the end of a document. -/
def atMarker (cursor : Cursor) (c : Char) : Bool :=
  cursor.column == 0 && cursor.next == some c && cursor.ahead 1 == some c &&
    cursor.ahead 2 == some c && endsWord (cursor.ahead 3)

/-- Whether a line that begins here is a marker of a document. -/
def atDocumentMarker (cursor : Cursor) : Bool :=
  cursor.atMarker '-' || cursor.atMarker '.'

end Cursor

end PrivacyMapping.Yaml

import PrivacyMapping.Yaml.Cursor
import PrivacyMapping.Yaml.Tag
import PrivacyMapping.Text.Digits

/-!
# Tokens of YAML text

The smallest parts of a YAML text that carry meaning. Blocks that are shown by indentation alone
have tokens for their start and end, and keys that are recognised by the colon after them have a
token in front of them, so that the grammar of documents needs no places. This module holds the
tokens and reads those that stand on one line; `Yaml/ScalarText.lean` reads the others.
-/

namespace PrivacyMapping.Yaml

/-- The handle of a tag and the bytes after it. -/
structure TagText where
  handle : String
  suffix : List UInt8
  deriving DecidableEq, Inhabited

inductive Token where
  | versionDirective (major minor : Nat)
  | tagDirective (tag : TagText)
  | documentStart
  | documentEnd
  | blockSequenceStart
  | blockMappingStart
  | blockEnd
  | flowSequenceStart
  | flowSequenceEnd
  | flowMappingStart
  | flowMappingEnd
  | blockEntry
  | flowEntry
  | key
  | value
  | alias (name : String)
  | anchor (name : String)
  | tag (tag : TagText)
  | scalar (text : String) (plain : Bool)
  deriving DecidableEq, Inhabited

namespace Token

/-! ## Numbers and names -/

/-- A part of the version of a directive: one to nine digits. -/
def versionNumber? (cursor : Cursor) : Option (Nat × Cursor) :=
  let digits := cursor.rest.takeWhile Char.isDigit
  if digits.isEmpty || 9 < digits.length then none
  else some (Nat.ofDigitChars 10 digits 0, cursor.skip digits.length)

/-- The name at the cursor. -/
def name (cursor : Cursor) : List Char × Cursor :=
  let chars := cursor.rest.takeWhile isNameChar
  (chars, cursor.skip chars.length)

/-- What may follow the name of an anchor. -/
def endsAnchor : Option Char → Bool
  | none => true
  | some c =>
    isGap c || isBreak c || c == '?' || c == ':' || c == ',' || c == ']' || c == '}' || c == '%' ||
      c == '@' || c == '\x60'

/-- The name of an anchor or alias, in front of whose mark the cursor stands. -/
def anchorName? (cursor : Cursor) : Option (String × Cursor) :=
  let (chars, after) := name (cursor.skip 1)
  if chars.isEmpty || !endsAnchor after.next then none else some (String.ofList chars, after)

/-! ## Tags -/

/-- The number of bytes in the encoded form of a character whose first byte is given. -/
def encodedLength? (first : Nat) : Option Nat :=
  if first < 0x80 then some 1
  else if 0xC0 ≤ first ∧ first < 0xE0 then some 2
  else if 0xE0 ≤ first ∧ first < 0xF0 then some 3
  else if 0xF0 ≤ first ∧ first < 0xF8 then some 4
  else none

/-- The byte of an escape such as `%C3`. -/
def escapedByte? : List Char → Option (Nat × List Char)
  | '%' :: high :: low :: rest => do
    some ((← Text.number? 16 [high, low]), rest)
  | _ => none

/-- The escapes of the later bytes of a character. -/
def laterBytes? : Nat → List Char → Option (List UInt8)
  | 0, _ => some []
  | n + 1, cs => do
    let (code, rest) ← escapedByte? cs
    if code / 0x40 = 2 then some (UInt8.ofNat code :: (← laterBytes? n rest)) else none

/-- The escapes of one character, as bytes. -/
def escapedChar? (cs : List Char) : Option (List UInt8) := do
  let (first, rest) ← escapedByte? cs
  let length ← encodedLength? first
  some (UInt8.ofNat first :: (← laterBytes? (length - 1) rest))

/-- Whether a character may stand in a tag as it is. The separators of flow collections may only
where `wide` holds: between angle brackets and in directives. -/
def isTagChar (wide : Bool) (c : Char) : Bool :=
  isNameChar c ||
    [';', '/', '?', ':', '@', '&', '=', '+', '$', '.', '!', '~', '*', '\'', '(', ')'].contains c ||
    (wide && (c == ',' || c == '[' || c == ']'))

/-- The bytes of a tag up to the first character that cannot stand in it. The first argument bounds
the number of characters and is never used up before them. -/
def tagBytes? (wide : Bool) : Nat → Cursor → Option (List UInt8 × Cursor)
  | 0, cursor => some ([], cursor)
  | n + 1, cursor =>
    match cursor.next with
    | none => some ([], cursor)
    | some c =>
      if c == '%' then do
        let bytes ← escapedChar? cursor.rest
        let (more, cursor) ← tagBytes? wide n (cursor.skip (3 * bytes.length))
        some (bytes ++ more, cursor)
      else if isTagChar wide c then do
        let (more, cursor) ← tagBytes? wide n (cursor.skip 1)
        some (Tag.byte c :: more, cursor)
      else some ([], cursor)

/-- The bytes up to the first zero byte, which ends a tag. -/
def untilZero (bytes : List UInt8) : List UInt8 :=
  bytes.takeWhile (· != 0)

/-- The bytes of a tag after what has been read of it. They may be missing only after a handle. -/
def tagRest? (wide : Bool) (afterHandle : Bool) (cursor : Cursor) :
    Option (List UInt8 × Cursor) := do
  let (bytes, after) ← tagBytes? wide cursor.rest.length cursor
  if bytes.isEmpty && !afterHandle then none else some (bytes, after)

/-- A handle such as `!`, `!!` or `!name!`, in front of which the cursor stands, or the start of a
local tag such as `!name`. -/
def handle (cursor : Cursor) : List Char × Cursor :=
  let (chars, after) := name (cursor.skip 1)
  if after.next == some '!' then ('!' :: chars ++ ['!'], after.skip 1) else ('!' :: chars, after)

/-- A tag, in front of whose exclamation mark the cursor stands: one between angle brackets, one
with a handle, or one that is local. A mark alone is the tag that consists of it. -/
def tagText? (inFlow : Bool) (cursor : Cursor) : Option (TagText × Cursor) := do
  let (text, after) ←
    if cursor.ahead 1 == some '<' then do
      let (bytes, after) ← tagRest? true false (cursor.skip 2)
      if after.next == some '>' then
        some ((⟨"", untilZero bytes⟩ : TagText), after.skip 1)
      else none
    else do
      let (start, after) := handle cursor
      if 1 < start.length ∧ start.getLast? = some '!' then
        let (bytes, after) ← tagRest? false false after
        some (⟨String.ofList start, untilZero bytes⟩, after)
      else
        let (more, after) ← tagRest? false true after
        let suffix := untilZero (start.tail.map Tag.byte ++ more)
        some (if suffix.isEmpty then ⟨"", Tag.bare.bytes⟩ else ⟨"!", suffix⟩, after)
  if endsWord after.next || (inFlow && after.next == some ',') then some (text, after) else none

/-! ## Directives -/

def version? (cursor : Cursor) : Option (Token × Cursor) := do
  let (major, cursor) ← versionNumber? (cursor.skipWhile isGap)
  if cursor.next == some '.' then
    let (minor, cursor) ← versionNumber? (cursor.skip 1)
    some (.versionDirective major minor, cursor)
  else none

/-- The handle that a directive declares and what the handle stands for. -/
def declaration? (cursor : Cursor) : Option (Token × Cursor) := do
  let cursor := cursor.skipWhile isGap
  if cursor.next == some '!' then
    let (start, after) := handle cursor
    if start == ['!'] || start.getLast? == some '!' then
      if after.next.any isGap then
        let (bytes, after) ← tagRest? true false (after.skipWhile isGap)
        if endsWord after.next then
          some (.tagDirective ⟨String.ofList start, untilZero bytes⟩, after)
        else none
      else none
    else none
  else none

/-- A directive, in front of whose percent sign the cursor stands, with its line. -/
def directive? (cursor : Cursor) : Option (Token × Cursor) := do
  let (chars, after) := name (cursor.skip 1)
  if endsWord after.next then
    let (token, after) ←
      if chars == ['Y', 'A', 'M', 'L'] then version? after
      else if chars == ['T', 'A', 'G'] then declaration? after
      else none
    some (token, ← after.endLine?)
  else none

end Token

end PrivacyMapping.Yaml

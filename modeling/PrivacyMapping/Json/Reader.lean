import PrivacyMapping.Json.Basic
import PrivacyMapping.Json.Error
import PrivacyMapping.Binary64.Rounding
import PrivacyMapping.Text.Digits

/-!
# Reading JSON text

Every part of the reader takes the text that is left and gives a value with the text after it, or a
fault with the number of bytes that were left unread when it was noticed. Arrays and objects are
read by a reader for what lies inside them, so that the number of levels still allowed is the
measure of the recursion.
-/

namespace PrivacyMapping.Json.Reading

/-- A fault and the number of bytes that were unread when it was noticed. -/
structure Failure where
  fault : Fault
  unread : Nat

/-- What a reader makes of a text. -/
abbrev Outcome := Except Failure

def byteLength (cs : List Char) : Nat :=
  cs.foldl (fun total c => total + c.utf8Size) 0

/-- Refuse a text in front of what is left of it. -/
def failAt {α : Type} (fault : Fault) (rest : List Char) : Outcome α :=
  .error ⟨fault, byteLength rest⟩

/-- Refuse a text on the next byte of what is left of it, or at its end if nothing is left. -/
def failOn {α : Type} (fault : Fault) (rest : List Char) : Outcome α :=
  .error ⟨fault, byteLength rest - 1⟩

/-- Whether a character may stand between the parts of a value. -/
def isGap (c : Char) : Bool :=
  c == ' ' || c == '\n' || c == '\t' || c == '\r'

/-- The text from its first character that is no gap. -/
def skipGaps (cs : List Char) : List Char :=
  cs.dropWhile isGap

/-! ## Numbers -/

/-- The largest significand that is kept; digits that would make it larger are left out. -/
def significandLimit : Nat := Nat.pow 2 64 - 1

/-- Take digits into a significand as long as it stays within the limit. The result is the
significand and the number of the digits left out. -/
def takeDigits (significand : Nat) : List Char → Nat × Nat
  | [] => (significand, 0)
  | digit :: digits =>
    let next := significand * 10 + Text.digitValue digit
    if next ≤ significandLimit then takeDigits next digits
    else (significand, digits.length + 1)

/-- A magnitude times `10 ^ exponent`, in one rounded step where the power is a number itself and in
two where it is too small for that. There is none if the magnitude grows past the last number. -/
def scale? (magnitude : Binary64) (exponent : Int) : Option Binary64 :=
  if magnitude.isZero then some magnitude
  else if 0 ≤ exponent then do
    magnitude.mul? (← Binary64.powerOfTen? exponent.toNat)
  else if exponent.natAbs ≤ 308 then do
    magnitude.div? (← Binary64.powerOfTen? exponent.natAbs)
  else if exponent.natAbs ≤ 616 then do
    let step ← magnitude.div? (← Binary64.powerOfTen? 308)
    step.div? (← Binary64.powerOfTen? (exponent.natAbs - 308))
  else some (Binary64.zero false)

/-- The number of a magnitude with a sign; without a magnitude it is out of range. -/
def ofMagnitude (negative : Bool) (rest : List Char) : Option Binary64 → Outcome (Number × List Char)
  | some magnitude => .ok (.float { magnitude with negative }, rest)
  | none => failAt .numberOutOfRange rest

/-- The floating-point number `significand * 10 ^ exponent`: the significand is rounded first, the
power after it. -/
def float (negative : Bool) (significand : Nat) (exponent : Int) (rest : List Char) :
    Outcome (Number × List Char) :=
  ofMagnitude negative rest ((Binary64.ofNat? false significand).bind (scale? · exponent))

/-- The largest exponent that is read. -/
def exponentLimit : Nat := Nat.pow 2 31 - 1

/-- The value of the digits of an exponent, or the digits after the one that takes it past the
limit. -/
def exponentValue (exponent : Nat) : List Char → Except (List Char) Nat
  | [] => .ok exponent
  | digit :: digits =>
    let next := exponent * 10 + Text.digitValue digit
    if next ≤ exponentLimit then exponentValue next digits else .error digits

/-- The sign of an exponent as a factor, and what follows it. -/
def exponentSign : List Char → Int × List Char
  | '+' :: rest => (1, rest)
  | '-' :: rest => (-1, rest)
  | cs => (1, cs)

/-- The rest of a number whose exponent mark has been read. -/
def readExponent (negative : Bool) (significand : Nat) (exponent : Int) (cs : List Char) :
    Outcome (Number × List Char) :=
  let (sign, cs) := exponentSign cs
  let digits := cs.takeWhile Char.isDigit
  let rest := cs.dropWhile Char.isDigit
  match digits, cs with
  | [], [] => failAt .unfinishedValue cs
  | [], _ :: _ => failOn .invalidNumber cs
  | _ :: _, _ =>
    match exponentValue 0 digits with
    | .ok value => float negative significand (exponent + sign * value) rest
    | .error unread =>
      if significand ≠ 0 ∧ sign = 1 then failAt .numberOutOfRange (unread ++ rest)
      else .ok (.float (Binary64.zero negative), rest)

/-- The rest of a number after its fraction. -/
def readAfterFraction (negative : Bool) (significand : Nat) (exponent : Int) (cs : List Char) :
    Outcome (Number × List Char) :=
  match cs with
  | 'e' :: rest | 'E' :: rest => readExponent negative significand exponent rest
  | _ => float negative significand exponent cs

/-- The rest of a number whose point has been read; at least one digit must follow. -/
def readFraction (negative : Bool) (significand : Nat) (exponent : Int) (cs : List Char) :
    Outcome (Number × List Char) :=
  let digits := cs.takeWhile Char.isDigit
  let rest := cs.dropWhile Char.isDigit
  match digits, rest with
  | [], [] => failOn .unfinishedValue rest
  | [], _ :: _ => failOn .invalidNumber rest
  | _ :: _, _ =>
    let (significand, left) := takeDigits significand digits
    readAfterFraction negative significand (exponent - (digits.length - left : Nat)) rest

/-- The whole number with the given sign, if it fits 64 bits; negative zero is not whole. -/
def wholeNumber? (negative : Bool) (n : Nat) : Option Int :=
  if !negative then some n
  else if 0 < n ∧ n ≤ Nat.pow 2 63 then some (-n)
  else none

/-- A number after its sign. -/
def readNumber (negative : Bool) (cs : List Char) : Outcome (Number × List Char) :=
  let digits := cs.takeWhile Char.isDigit
  let rest := cs.dropWhile Char.isDigit
  match digits, cs with
  | [], [] => failAt .unfinishedValue cs
  | [], _ :: _ => failOn .invalidNumber cs
  | '0' :: next :: more, _ => failOn .invalidNumber (next :: more ++ rest)
  | _ :: _, _ =>
    let (significand, left) := takeDigits 0 digits
    match rest with
    | '.' :: rest => readFraction negative significand left rest
    | 'e' :: rest | 'E' :: rest => readExponent negative significand left rest
    | _ =>
      match (if left = 0 then wholeNumber? negative significand else none) with
      | some n => .ok (.int n, rest)
      | none => float negative significand left rest

/-! ## Strings -/

/-- The four hexadecimal digits of an escape. -/
def readHex (cs : List Char) : Outcome (Nat × List Char) :=
  match Text.number? 16 (cs.take 4), decide (4 ≤ cs.length) with
  | some n, true => .ok (n, cs.drop 4)
  | _, _ =>
    if byteLength cs < 4 then .error ⟨.unfinishedString, 0⟩
    else .error ⟨.invalidEscape, byteLength cs - 4⟩

/-- The character of a `\u` escape. Characters outside the first plane are written as two escapes
that hold a leading and a trailing surrogate. -/
def readUnicode (cs : List Char) : Outcome (Char × List Char) := do
  let (lead, rest) ← readHex cs
  if 0xDC00 ≤ lead ∧ lead ≤ 0xDFFF then failAt .loneSurrogate rest
  else if lead < 0xD800 ∨ 0xDBFF < lead then pure (Char.ofNat lead, rest)
  else match rest with
    | '\\' :: 'u' :: rest =>
      let (trail, rest) ← readHex rest
      if 0xDC00 ≤ trail ∧ trail ≤ 0xDFFF then
        pure (Char.ofNat ((lead - 0xD800) * 0x400 + (trail - 0xDC00) + 0x10000), rest)
      else failAt .loneSurrogate rest
    | ['\\'] => failAt .unfinishedString []
    | '\\' :: rest => failOn .unfinishedSurrogatePair rest
    | [] => failAt .unfinishedString []
    | rest => failOn .unfinishedSurrogatePair rest

/-- The character of an escape whose backslash has been read. -/
def readEscape : List Char → Outcome (Char × List Char)
  | [] => failAt .unfinishedString []
  | c :: rest =>
    match c with
    | '"' => .ok ('"', rest)
    | '\\' => .ok ('\\', rest)
    | '/' => .ok ('/', rest)
    | 'b' => .ok ('\x08', rest)
    | 'f' => .ok ('\x0c', rest)
    | 'n' => .ok ('\n', rest)
    | 'r' => .ok ('\r', rest)
    | 't' => .ok ('\t', rest)
    | 'u' => readUnicode rest
    | _ => failOn .invalidEscape (c :: rest)

/-- The characters of a string up to its closing quote. The first argument bounds the number of
characters and is never used up before the text. -/
def readChars : Nat → List Char → Outcome (List Char × List Char)
  | 0, cs => failAt .unfinishedString cs
  | _ + 1, [] => failAt .unfinishedString []
  | n + 1, c :: rest => do
    if c = '"' then pure ([], rest)
    else if c = '\\' then
      let (c, rest) ← readEscape rest
      let (cs, rest) ← readChars n rest
      pure (c :: cs, rest)
    else if c.toNat < 0x20 then failAt .controlCharacter rest
    else
      let (cs, rest) ← readChars n rest
      pure (c :: cs, rest)

def readString (cs : List Char) : Outcome (String × List Char) := do
  let (chars, rest) ← readChars cs.length cs
  pure (String.ofList chars, rest)

/-! ## Arrays, objects and values -/

/-- A reader for the values inside an array or object. -/
abbrev ItemReader := List Char → Outcome (Json × List Char)

/-- The remaining letters of one of the three words. -/
def readWord (value : Json) : List Char → List Char → Outcome (Json × List Char)
  | [], cs => .ok (value, cs)
  | _ :: _, [] => failAt .unfinishedValue []
  | letter :: letters, c :: rest =>
    if c = letter then readWord value letters rest else failOn .expectedWord (c :: rest)

/-- The items of an array after one that has been read. -/
def readMoreItems (readItem : ItemReader) :
    Nat → List Char → Outcome (List Json × List Char)
  | 0, cs => failOn .unfinishedList cs
  | n + 1, cs =>
    match skipGaps cs with
    | [] => failOn .unfinishedList []
    | ']' :: rest => .ok ([], rest)
    | ',' :: rest =>
      match skipGaps rest with
      | [] => failOn .unfinishedValue []
      | ']' :: rest => failOn .trailingComma (']' :: rest)
      | rest => do
        let (item, rest) ← readItem rest
        let (items, rest) ← readMoreItems readItem n rest
        pure (item :: items, rest)
    | rest => failOn .expectedListCommaOrEnd rest

/-- The items of an array whose bracket has been read. -/
def readItems (readItem : ItemReader) (cs : List Char) :
    Outcome (List Json × List Char) :=
  match skipGaps cs with
  | [] => failOn .unfinishedList []
  | ']' :: rest => .ok ([], rest)
  | rest => do
    let (item, rest) ← readItem rest
    let (items, rest) ← readMoreItems readItem rest.length rest
    pure (item :: items, rest)

def readMember (readItem : ItemReader) (cs : List Char) :
    Outcome ((String × Json) × List Char) :=
  match cs with
  | '"' :: rest => do
    let (key, rest) ← readString rest
    match skipGaps rest with
    | [] => failOn .unfinishedObject []
    | ':' :: rest =>
      let (value, rest) ← readItem rest
      pure ((key, value), rest)
    | rest => failOn .expectedColon rest
  | _ => failOn .keyNotString cs

/-- The members of an object after one that has been read. -/
def readMoreMembers (readItem : ItemReader) :
    Nat → List Char → Outcome (List (String × Json) × List Char)
  | 0, cs => failOn .unfinishedObject cs
  | n + 1, cs =>
    match skipGaps cs with
    | [] => failOn .unfinishedObject []
    | '}' :: rest => .ok ([], rest)
    | ',' :: rest =>
      match skipGaps rest with
      | [] => failOn .unfinishedValue []
      | '}' :: rest => failOn .trailingComma ('}' :: rest)
      | rest => do
        let (member, rest) ← readMember readItem rest
        let (members, rest) ← readMoreMembers readItem n rest
        pure (member :: members, rest)
    | rest => failOn .expectedObjectCommaOrEnd rest

/-- The members of an object whose brace has been read. -/
def readMembers (readItem : ItemReader) (cs : List Char) :
    Outcome (List (String × Json) × List Char) :=
  match skipGaps cs with
  | [] => failOn .unfinishedObject []
  | '}' :: rest => .ok ([], rest)
  | rest => do
    let (member, rest) ← readMember readItem rest
    let (members, rest) ← readMoreMembers readItem rest.length rest
    pure (member :: members, rest)

/-- A value, given the reader for what lies inside arrays and objects; without one they are
refused. -/
def readValueWith (inner : Option ItemReader) (cs : List Char) :
    Outcome (Json × List Char) :=
  match skipGaps cs with
  | [] => failOn .unfinishedValue []
  | 'n' :: rest => readWord .null ['u', 'l', 'l'] rest
  | 't' :: rest => readWord (.bool true) ['r', 'u', 'e'] rest
  | 'f' :: rest => readWord (.bool false) ['a', 'l', 's', 'e'] rest
  | '"' :: rest => do
    let (s, rest) ← readString rest
    pure (.str s, rest)
  | '-' :: rest => do
    let (n, rest) ← readNumber true rest
    pure (.num n, rest)
  | '[' :: rest =>
    match inner with
    | none => failOn .tooDeep ('[' :: rest)
    | some readItem => do
      let (items, rest) ← readItems readItem rest
      pure (.arr items, rest)
  | '{' :: rest =>
    match inner with
    | none => failOn .tooDeep ('{' :: rest)
    | some readItem => do
      let (members, rest) ← readMembers readItem rest
      pure (.obj (Entries.insertAll [] members), rest)
  | c :: rest =>
    if c.isDigit then do
      let (n, rest) ← readNumber false (c :: rest)
      pure (.num n, rest)
    else failOn .expectedValue (c :: rest)

/-- A value with at most `room` levels of arrays and objects. -/
def readValue : Nat → ItemReader
  | 0 => readValueWith none
  | room + 1 => readValueWith (some (readValue room))

/-- The number of levels of arrays and objects that are read. -/
def levels : Nat := 127

def readDocument (cs : List Char) : Outcome Json := do
  let (value, rest) ← readValue levels cs
  match skipGaps rest with
  | [] => pure value
  | rest => failOn .trailingCharacters rest

/-- The line and column of the place after the given number of bytes. -/
def placeFrom (line column : Nat) : List Char → Nat → Nat × Nat
  | [], offset => (line, column + offset)
  | c :: rest, offset =>
    if offset < c.utf8Size then (line, column + offset)
    else if c = '\n' then placeFrom (line + 1) 0 rest (offset - 1)
    else placeFrom line (column + c.utf8Size) rest (offset - c.utf8Size)

end Reading

/-- Read a text as a value. An object keeps each key at its first place and with its last value. -/
def parse (text : String) : Except ReadError Json :=
  match Reading.readDocument text.toList with
  | .ok value => .ok value
  | .error failure =>
    let offset := Reading.byteLength text.toList - failure.unread
    let (line, column) := Reading.placeFrom 1 0 text.toList offset
    .error ⟨failure.fault, line, column⟩

end PrivacyMapping.Json

import PrivacyMapping.Text.CasingTable

/-!
# Lower case

The lower-case form of a text, by the Unicode rules that hold in every language: each capital has
its small letter, the dotted capital I becomes an i and a combining dot, and a capital sigma becomes
the final small sigma at the end of a word.
-/

namespace PrivacyMapping.Text

/-- The small letter of a character, or the character itself when it has none of its own. -/
def smallLetter (c : Char) : Char :=
  match caseRuns.find? (·.covers c.toNat) with
  | some run => Char.ofNat (run.image + (c.toNat - run.first))
  | none => c

/-- Whether a character is a letter with case. -/
def isCased (c : Char) : Bool :=
  casedRanges.contains c

/-- Whether a character does not count when the neighbours of a sigma are looked for. -/
def isCaseIgnorable (c : Char) : Bool :=
  caseIgnorableRanges.contains c

/-- Whether the nearest character that counts is a letter with case. -/
def meetsCased (cs : List Char) : Bool :=
  match cs.dropWhile isCaseIgnorable with
  | [] => false
  | c :: _ => isCased c

/-- The lower-case form of one character between the text before it, nearest first, and the text
after it. -/
def lowerChar (before : List Char) (c : Char) (after : List Char) : List Char :=
  if c = 'Σ' then
    [if meetsCased before && !meetsCased after then 'ς' else 'σ']
  else if c = 'İ' then ['i', '\u0307']
  else [smallLetter c]

/-- The lower-case form of a text that stands after the text `before`, which is given nearest
first. -/
def lowerAfter (before : List Char) : List Char → List Char
  | [] => []
  | c :: after => lowerChar before c after ++ lowerAfter (c :: before) after

def lowercase (s : String) : String :=
  String.ofList (lowerAfter [] s.toList)

end PrivacyMapping.Text

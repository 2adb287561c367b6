import PrivacyMapping.Text.CodePoints

/-!
# Blank characters

The characters with the property White_Space, and what is left of a text without those at its ends.
-/

namespace PrivacyMapping.Text

/-- The code points with the property White_Space. -/
def whiteSpaceRanges : CodePoints := [
  (9, 13), (32, 32), (133, 133), (160, 160), (5760, 5760), (8192, 8202), (8232, 8233),
  (8239, 8239), (8287, 8287), (12288, 12288)]

def isWhiteSpace (c : Char) : Bool :=
  whiteSpaceRanges.contains c

/-- The characters without the white space before the first and after the last other one. -/
def trimChars (cs : List Char) : List Char :=
  ((cs.dropWhile isWhiteSpace).reverse.dropWhile isWhiteSpace).reverse

/-- The text without white space at its ends. -/
def trim (s : String) : String :=
  String.ofList (trimChars s.toList)

/-- Whether a text holds white space only; the empty text does. -/
def isBlank (s : String) : Bool :=
  s.toList.all isWhiteSpace

end PrivacyMapping.Text

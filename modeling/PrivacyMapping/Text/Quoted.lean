import PrivacyMapping.Text.PrintableTable

/-!
# Quoted texts

How a message shows a text that it speaks of: in double quotes, with the quote, the backslash and
the common controls escaped, and every character that has no form of its own written as `\u` with
its code point in braces.
-/

namespace PrivacyMapping.Text

/-- Whether a character is shown as it is. -/
def isPrintable (c : Char) : Bool :=
  !graphemeExtendRanges.contains c && !unprintableRanges.contains c

def quotedChar (c : Char) : List Char :=
  if c = '\x00' then ['\\', '0']
  else if c = '\t' then ['\\', 't']
  else if c = '\r' then ['\\', 'r']
  else if c = '\n' then ['\\', 'n']
  else if c = '"' then ['\\', '"']
  else if c = '\\' then ['\\', '\\']
  else if isPrintable c then [c]
  else ['\\', 'u', '{'] ++ Nat.toDigits 16 c.toNat ++ ['}']

def quoted (s : String) : String :=
  String.ofList ('"' :: s.toList.flatMap quotedChar ++ ['"'])

end PrivacyMapping.Text

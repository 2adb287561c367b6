/-!
# Pieces of a text

A text cut at every occurrence of a separator. Joining the pieces with the separator gives the text
back.
-/

namespace PrivacyMapping.Text

/-- The pieces between the separators of a text, the first one apart: there is always one. -/
def pieces (separator : Char) : List Char → List Char × List (List Char)
  | [] => ([], [])
  | c :: rest =>
    let (piece, more) := pieces separator rest
    if c = separator then ([], piece :: more) else (c :: piece, more)

end PrivacyMapping.Text

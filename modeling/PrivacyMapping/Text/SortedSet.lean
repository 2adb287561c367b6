/-!
# Sorted sets of texts

A set of texts as the list of its members in increasing order of their code points. Neither the
order nor the repetition of the texts that are put together matters.
-/

namespace PrivacyMapping.Text

/-- Put a text into a list of texts in increasing order, once. -/
def insertSorted (text : String) : List String → List String
  | [] => [text]
  | first :: rest =>
    if text < first then text :: first :: rest
    else if text = first then first :: rest
    else first :: insertSorted text rest

/-- The texts in increasing order, each once. -/
def sortedSet (texts : List String) : List String :=
  texts.foldr insertSorted []

end PrivacyMapping.Text

import PrivacyMapping.Sources
import PrivacyMapping.Text.Pieces

/-!
# Selectors

A selector is a dotted path such as `xdomea.records[*].subjects`. Its first part names a source
document, the others lead into it: an object is entered by key and an array by index. A part marked
with `[*]` projects over the array it leads to, so that the parts after it are followed in every
item and the results are joined. Only one part may project; a second marked part leads nowhere. What
is missing on the way makes the selector find nothing, and never fails.
-/

namespace PrivacyMapping

/-- A part of a selector after the source name. -/
structure Segment where
  key : String
  wildcard : Bool
  deriving DecidableEq

/-- A source name and the parts that lead into its document. -/
structure Selector where
  source : String
  segments : List Segment
  deriving DecidableEq

/-! ## Written form -/

namespace Segment

/-- The mark of a part that projects. -/
def marker : List Char := ['[', '*', ']']

/-- The text without the mark at its end, if it has one. -/
def unmarked? (cs : List Char) : Option (List Char) :=
  if marker.isSuffixOf cs then some (cs.take (cs.length - marker.length)) else none

def ofChars (cs : List Char) : Segment :=
  match unmarked? cs with
  | some key => ⟨String.ofList key, true⟩
  | none => ⟨String.ofList cs, false⟩

def chars (segment : Segment) : List Char :=
  segment.key.toList ++ if segment.wildcard then marker else []

end Segment

namespace Selector

/-- The selector written as a path. Every text is one. -/
def parse (path : String) : Selector :=
  let (source, segments) := Text.pieces '.' path.toList
  ⟨String.ofList source, segments.map Segment.ofChars⟩

def path (selector : Selector) : String :=
  String.ofList
    (selector.source.toList ++ selector.segments.flatMap fun segment => '.' :: segment.chars)

def wildcardCount (selector : Selector) : Nat :=
  selector.segments.countP (·.wildcard)

end Selector

/-! ## Resolution -/

/-- The number of values an index can have. -/
def indexBound : Nat := Nat.pow 2 64

/-- The index written as decimal digits after an optional plus sign. -/
def index? (key : String) : Option Nat :=
  let digits :=
    match key.toList with
    | '+' :: rest => rest
    | cs => cs
  if digits.isEmpty || !digits.all Char.isDigit then none
  else
    let n := Nat.ofDigitChars 10 digits 0
    if n < indexBound then some n else none

/-- The value one step into a value. -/
def Json.step? (value : Json) (key : String) : Option Json :=
  match value with
  | .obj members => Entries.get? members key
  | .arr items => (index? key).bind (items[·]?)
  | _ => none

/-- The value that parts without a mark lead to. -/
def Json.follow? (value : Json) (segments : List Segment) : Option Json :=
  segments.foldlM (fun value segment => if segment.wildcard then none else value.step? segment.key)
    value

/-- The results that a value at the end of a path stands for: the items of an array, and any other
value itself. -/
def Json.results : Json → List Json
  | .arr items => items
  | value => [value]

/-- The results of the remaining parts in every item of an array. -/
def Json.project (value : Json) (rest : List Segment) : List Json :=
  match value with
  | .arr items =>
    -- arrays among the items are joined only where parts follow the mark
    if rest.isEmpty then items
    else items.flatMap fun item =>
      match item.follow? rest with
      | some found => found.results
      | none => []
  | _ => []

/-- The results of the parts of a selector in a document. -/
def Json.select (value : Json) : List Segment → List Json
  | [] => value.results
  | segment :: rest =>
    match value.step? segment.key with
    | none => []
    | some next => if segment.wildcard then next.project rest else next.select rest

/-- What a selector finds in the source documents. A path that is only a source name finds
nothing. -/
def Selector.resolve (selector : Selector) (sources : Sources) : List Json :=
  match sources.get? selector.source with
  | none => []
  | some document => if selector.segments.isEmpty then [] else document.select selector.segments

end PrivacyMapping

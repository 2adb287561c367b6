import PrivacyMapping.Yaml.Tokens

/-!
# Written trees

The tree that a sequence of tokens spells: scalars, sequences and mappings with their properties,
and aliases still under their names. What is left out, such as the value of a key, is an empty plain
scalar. Each kind of collection has a reader for its entries that is given the reader for the nodes
inside it, so that the number of levels still allowed is the measure of the recursion.
-/

namespace PrivacyMapping.Yaml

/-- The marks in front of a node. -/
structure Properties where
  anchor : Option String := none
  tag : Option Tag := none
  deriving Inhabited

/-- The properties of a scalar: a tag that is an exclamation mark alone says nothing about it. -/
def Properties.ofScalar (properties : Properties) : Properties :=
  if properties.tag == some Tag.bare then { properties with tag := none } else properties

/-- A node as it is written. -/
inductive Tree where
  | alias (name : String)
  | scalar (properties : Properties) (text : String) (plain : Bool)
  | sequence (properties : Properties) (items : List Tree)
  | mapping (properties : Properties) (pairs : List (Tree × Tree))
  deriving Inhabited

namespace Tree

/-- The node that stands for what is left out. -/
def omitted : Tree := .scalar {} "" true

/-- What the handles of tags stand for. -/
abbrev Handles := List TagText

/-- What may stand at the place of a node: a node in a block, one that may also be a sequence
without a block of its own, a node in a flow collection, or a single pair in a flow sequence. -/
inductive Place where
  | block
  | blockOrEntries
  | flow
  | pair
  deriving DecidableEq

/-- A reader of a node at a place. -/
abbrev Reader := Place → List Token → Option (Tree × List Token)

/-! ## Properties -/

/-- The tag that a handle and a suffix stand for. -/
def resolveTag? (handles : Handles) (text : TagText) : Option Tag :=
  if text.handle.isEmpty then some ⟨text.suffix⟩
  else (handles.find? (·.handle == text.handle)).map fun declared =>
    ⟨declared.suffix ++ text.suffix⟩

/-- The anchor and the tag in front of a node, each at most once. -/
def properties? (handles : Handles) : List Token → Option (Properties × List Token)
  | .anchor name :: .tag text :: rest => do
    some (⟨some name, some (← resolveTag? handles text)⟩, rest)
  | .tag text :: .anchor name :: rest => do
    some (⟨some name, some (← resolveTag? handles text)⟩, rest)
  | .anchor name :: rest => some (⟨some name, none⟩, rest)
  | .tag text :: rest => do some (⟨none, some (← resolveTag? handles text)⟩, rest)
  | tokens => some ({}, tokens)

/-! ## Entries of collections

The number that each of these readers is given first bounds the number of entries, and is never used
up before the tokens. -/

/-- A node, unless the next token is one of those before which it is left out. -/
def nodeUnless? (read : Reader) (place : Place) (stops : List Token) (tokens : List Token) :
    Option (Tree × List Token) :=
  if tokens.head?.any (stops.contains ·) then some (omitted, tokens) else read place tokens

/-- The entries of a sequence in a block of its own. -/
def blockItems? (read : Reader) : Nat → List Token → Option (List Tree × List Token)
  | 0, _ => none
  | n + 1, tokens =>
    match tokens with
    | .blockEntry :: rest => do
      let (item, rest) ← nodeUnless? read .block [.blockEntry, .blockEnd] rest
      let (items, rest) ← blockItems? read n rest
      some (item :: items, rest)
    | .blockEnd :: rest => some ([], rest)
    | _ => none

/-- The entries of a sequence without a block of its own. -/
def entryItems? (read : Reader) : Nat → List Token → Option (List Tree × List Token)
  | 0, tokens => some ([], tokens)
  | n + 1, tokens =>
    match tokens with
    | .blockEntry :: rest => do
      let (item, rest) ← nodeUnless? read .block [.blockEntry, .key, .value, .blockEnd] rest
      let (items, rest) ← entryItems? read n rest
      some (item :: items, rest)
    | _ => some ([], tokens)

def blockPairs? (read : Reader) : Nat → List Token → Option (List (Tree × Tree) × List Token)
  | 0, _ => none
  | n + 1, tokens =>
    match tokens with
    | .key :: rest => do
      let stops := [Token.key, .value, .blockEnd]
      let (key, rest) ← nodeUnless? read .blockOrEntries stops rest
      let (value, rest) ←
        match rest with
        | .value :: rest => nodeUnless? read .blockOrEntries stops rest
        | _ => some (omitted, rest)
      let (pairs, rest) ← blockPairs? read n rest
      some ((key, value) :: pairs, rest)
    | .blockEnd :: rest => some ([], rest)
    | _ => none

/-- The items of a flow sequence, from the first one or from a comma on. -/
def flowItems? (read : Reader) : Nat → Bool → List Token → Option (List Tree × List Token)
  | 0, _, _ => none
  | n + 1, first, tokens =>
    match tokens with
    | .flowSequenceEnd :: rest => some ([], rest)
    | _ => do
      let tokens ←
        if first then some tokens
        else match tokens with
          | .flowEntry :: rest => some rest
          | _ => none
      match tokens with
      | .flowSequenceEnd :: rest => some ([], rest)
      | .key :: rest =>
        let (item, rest) ← read .pair rest
        let (items, rest) ← flowItems? read n false rest
        some (item :: items, rest)
      | _ =>
        let (item, rest) ← read .flow tokens
        let (items, rest) ← flowItems? read n false rest
        some (item :: items, rest)

/-- The pair of a flow sequence whose mark has been read. A key that is left out takes the token
that follows the mark with it. -/
def flowPair? (read : Reader) (tokens : List Token) : Option ((Tree × Tree) × List Token) := do
  let (key, rest) ←
    match tokens with
    | .value :: rest | .flowEntry :: rest | .flowSequenceEnd :: rest => some (omitted, rest)
    | _ => read .flow tokens
  let (value, rest) ←
    match rest with
    | .value :: rest => nodeUnless? read .flow [.flowEntry, .flowSequenceEnd] rest
    | _ => some (omitted, rest)
  some ((key, value), rest)

/-- The pairs of a flow mapping, from the first one or from a comma on. -/
def flowPairs? (read : Reader) :
    Nat → Bool → List Token → Option (List (Tree × Tree) × List Token)
  | 0, _, _ => none
  | n + 1, first, tokens =>
    match tokens with
    | .flowMappingEnd :: rest => some ([], rest)
    | _ => do
      let tokens ←
        if first then some tokens
        else match tokens with
          | .flowEntry :: rest => some rest
          | _ => none
      match tokens with
      | .flowMappingEnd :: rest => some ([], rest)
      | .key :: rest =>
        let stops := [Token.flowEntry, .flowMappingEnd]
        let (key, rest) ← nodeUnless? read .flow (.value :: stops) rest
        let (value, rest) ←
          match rest with
          | .value :: rest => nodeUnless? read .flow stops rest
          | _ => some (omitted, rest)
        let (pairs, rest) ← flowPairs? read n false rest
        some ((key, value) :: pairs, rest)
      | _ =>
        let (key, rest) ← read .flow tokens
        let (pairs, rest) ← flowPairs? read n false rest
        some ((key, omitted) :: pairs, rest)

/-! ## Nodes -/

/-- The collection that begins with the next token, if one may at this place. -/
def collection? (read : Reader) (place : Place) (properties : Properties) (tokens : List Token) :
    Option (Tree × List Token) := do
  let inBlock := place != .flow
  match tokens with
  | .flowSequenceStart :: rest =>
    let (items, rest) ← flowItems? read tokens.length true rest
    some (.sequence properties items, rest)
  | .flowMappingStart :: rest =>
    let (pairs, rest) ← flowPairs? read tokens.length true rest
    some (.mapping properties pairs, rest)
  | .blockSequenceStart :: rest =>
    if inBlock then
      let (items, rest) ← blockItems? read tokens.length rest
      some (.sequence properties items, rest)
    else none
  | .blockMappingStart :: rest =>
    if inBlock then
      let (pairs, rest) ← blockPairs? read tokens.length rest
      some (.mapping properties pairs, rest)
    else none
  | .blockEntry :: _ =>
    if place = .blockOrEntries then
      let (items, rest) ← entryItems? read tokens.length tokens
      some (.sequence properties items, rest)
    else none
  | _ => none

/-- Whether the next token begins a collection at this place. -/
def beginsCollection (place : Place) : List Token → Bool
  | .flowSequenceStart :: _ | .flowMappingStart :: _ => true
  | .blockSequenceStart :: _ | .blockMappingStart :: _ => place != .flow
  | .blockEntry :: _ => place == .blockOrEntries
  | _ => false

/-- A node, given the reader for what lies inside collections; without one they are refused. -/
def nodeWith? (handles : Handles) (inner : Option Reader) (place : Place) (tokens : List Token) :
    Option (Tree × List Token) :=
  match place, tokens with
  | .pair, _ => do
    let (pair, rest) ← flowPair? (← inner) tokens
    some (.mapping {} [pair], rest)
  | _, .alias name :: rest => some (.alias name, rest)
  | _, _ => do
    let (properties, rest) ← properties? handles tokens
    match rest with
    | .scalar text plain :: rest => some (.scalar properties.ofScalar text plain, rest)
    | _ =>
      if beginsCollection place rest then collection? (← inner) place properties rest
      else if properties.anchor.isSome || properties.tag.isSome then
        some (.scalar properties "" true, rest)
      else none

/-- A node with at most `room` levels of collections. -/
def node? (handles : Handles) : Nat → Reader
  | 0 => nodeWith? handles none
  | room + 1 => nodeWith? handles (some (node? handles room))

/-- The number of levels of collections that are read. -/
def levels : Nat := 128

/-! ## Documents -/

/-- The handles that a document knows without declaring them. -/
def knownHandles : Handles := [⟨"!", Tag.bare.bytes⟩, ⟨"!!", Tag.coreNamespace.bytes⟩]

/-- The handles that directives declare. At most one directive may give the version, which must be
1.1 or 1.2, and no handle may be declared twice. -/
def directives? (versioned : Bool) (handles : Handles) :
    List Token → Option (Handles × List Token)
  | .versionDirective major minor :: rest =>
    if !versioned && major == 1 && (minor == 1 || minor == 2) then directives? true handles rest
    else none
  | .tagDirective declared :: rest =>
    if handles.any (·.handle == declared.handle) then none
    else directives? versioned (handles ++ [declared]) rest
  | tokens => some (handles, tokens)

/-- Whether a token stands in front of or after the content of a document. -/
def isDocumentPart : Token → Bool
  | .versionDirective .. | .tagDirective .. | .documentStart | .documentEnd => true
  | _ => false

/-- A document that begins with directives or its marker. -/
def explicitDocument? (tokens : List Token) : Option (Tree × List Token) := do
  let (handles, rest) ← directives? false [] tokens
  match rest with
  | .documentStart :: rest =>
    if rest.head?.all isDocumentPart then some (omitted, rest)
    else node? (handles ++ knownHandles) levels .block rest
  | _ => none

/-- The tree of a text of at most one document; a text without one stands for what is left out. -/
def ofTokens? (tokens : List Token) : Option Tree := do
  let begins : Token → Bool
    | .versionDirective .. | .tagDirective .. | .documentStart => true
    | _ => false
  let (tree, rest) ←
    if tokens.isEmpty then some (omitted, [])
    else if tokens.head?.any begins then explicitDocument? tokens
    else node? knownHandles levels .block tokens
  if (rest.dropWhile (· == .documentEnd)).isEmpty then some tree else none

end Tree

end PrivacyMapping.Yaml

import PrivacyMapping.Entries
import PrivacyMapping.Yaml.Tree
import PrivacyMapping.Yaml.Scalar

/-!
# The value of a document

An alias stands for the node that carries its anchor. Anchors are numbered in the order of the text,
and every alias takes the number that its name has at its place; a name that is used again gets a
new number. The number of the next anchor is the number of names in use, so two anchors can share a
number, and then the later one counts for both. Values are nested to a limited depth, also through
aliases, and the number of aliases that are followed is limited in proportion to the length of the
document, so that no text stands for a value out of all proportion to it.
-/

namespace PrivacyMapping.Yaml

/-- A node with numbered anchors. -/
inductive Node where
  | alias (anchor : Nat)
  | scalar (anchor : Option Nat) (tag : Option Tag) (text : String) (plain : Bool)
  | sequence (anchor : Option Nat) (tag : Option Tag) (items : List Node)
  | mapping (anchor : Option Nat) (tag : Option Tag) (pairs : List (Node × Node))
  deriving Inhabited

/-! ## Numbering of anchors -/

/-- The numbers that the names of anchors have at a place. -/
abbrev Anchors := Entries Nat

/-- The number of an anchor, and what the names stand for after it. -/
def Anchors.declare (anchors : Anchors) (name : Option String) : Option Nat × Anchors :=
  match name with
  | none => (none, anchors)
  | some name => (some anchors.length, anchors.insert name anchors.length)

namespace Tree

mutual

/-- The node of a tree, and what the names of anchors stand for after it. An alias must have a
name that is declared before it. -/
def number? (anchors : Anchors) : Tree → Option (Node × Anchors)
  | .alias name => (anchors.get? name).map fun anchor => (.alias anchor, anchors)
  | .scalar properties text plain =>
    let (anchor, anchors) := anchors.declare properties.anchor
    some (.scalar anchor properties.tag text plain, anchors)
  | .sequence properties items => do
    let (anchor, anchors) := anchors.declare properties.anchor
    let (items, anchors) ← numberItems? anchors items
    some (.sequence anchor properties.tag items, anchors)
  | .mapping properties pairs => do
    let (anchor, anchors) := anchors.declare properties.anchor
    let (pairs, anchors) ← numberPairs? anchors pairs
    some (.mapping anchor properties.tag pairs, anchors)

def numberItems? (anchors : Anchors) : List Tree → Option (List Node × Anchors)
  | [] => some ([], anchors)
  | item :: rest => do
    let (item, anchors) ← number? anchors item
    let (rest, anchors) ← numberItems? anchors rest
    some (item :: rest, anchors)

def numberPairs? (anchors : Anchors) :
    List (Tree × Tree) → Option (List (Node × Node) × Anchors)
  | [] => some ([], anchors)
  | (key, value) :: rest => do
    let (key, anchors) ← number? anchors key
    let (value, anchors) ← number? anchors value
    let (rest, anchors) ← numberPairs? anchors rest
    some ((key, value) :: rest, anchors)

end

end Tree

namespace Node

/-! ## Anchored nodes and length -/

mutual

/-- The nodes that carry an anchor, in the order of the text. -/
def anchored : Node → List (Nat × Node)
  | .alias _ => []
  | .scalar anchor tag text plain =>
    (anchor.map fun n => (n, Node.scalar anchor tag text plain)).toList
  | .sequence anchor tag items =>
    (anchor.map fun n => (n, Node.sequence anchor tag items)).toList ++ anchoredItems items
  | .mapping anchor tag pairs =>
    (anchor.map fun n => (n, Node.mapping anchor tag pairs)).toList ++ anchoredPairs pairs

/-- The anchored nodes of a list of nodes. -/
def anchoredItems : List Node → List (Nat × Node)
  | [] => []
  | item :: rest => anchored item ++ anchoredItems rest

/-- The anchored nodes of a list of pairs. -/
def anchoredPairs : List (Node × Node) → List (Nat × Node)
  | [] => []
  | (key, value) :: rest => anchored key ++ anchored value ++ anchoredPairs rest

end

mutual

/-- The length of a node: one for a scalar or an alias, and two more than its parts for a
collection. -/
def extent : Node → Nat
  | .alias _ | .scalar .. => 1
  | .sequence _ _ items => 2 + extentItems items
  | .mapping _ _ pairs => 2 + extentPairs pairs

def extentItems : List Node → Nat
  | [] => 0
  | item :: rest => extent item + extentItems rest

def extentPairs : List (Node × Node) → Nat
  | [] => 0
  | (key, value) :: rest => extent key + extent value + extentPairs rest

end

/-! ## Values -/

/-- A reader of the value of a node. The flag tells whether the tag of the node is set aside, and
the number how many aliases may still be followed. -/
abbrev Reader := Bool → Node → Nat → Option (Value × Nat)

def items? (read : Reader) : List Node → Nat → Option (List Value × Nat)
  | [], budget => some ([], budget)
  | item :: rest, budget => do
    let (value, budget) ← read false item budget
    let (values, budget) ← items? read rest budget
    some (value :: values, budget)

/-- The values of a list of pairs, no key of which equals an earlier one. The keys of a mapping
whose tag is set aside have theirs set aside too. -/
def pairs? (read : Reader) (untagged : Bool) (earlier : List Value) :
    List (Node × Node) → Nat → Option (List (Value × Value) × Nat)
  | [], budget => some ([], budget)
  | (key, value) :: rest, budget => do
    let (key, budget) ← read untagged key budget
    if earlier.any (key.same ·) then none
    else
      let (value, budget) ← read false value budget
      let (pairs, budget) ← pairs? read untagged (key :: earlier) rest budget
      some ((key, value) :: pairs, budget)

/-- The value of a node apart from its tag. -/
def content? (inner : Option Reader) (untagged : Bool) (node : Node) (budget : Nat) :
    Option (Value × Nat) :=
  match node with
  | .alias _ => none
  | .scalar _ tag text plain => do
    some (← Scalar.value? (if untagged then none else tag) text plain, budget)
  | .sequence _ _ items => do
    let (values, budget) ← items? (← inner) items budget
    some (.seq values, budget)
  | .mapping _ _ pairs => do
    let (values, budget) ← pairs? (← inner) untagged [] pairs budget
    some (.map values, budget)

def tag? : Node → Option Tag
  | .alias _ => none
  | .scalar _ tag _ _ | .sequence _ tag _ | .mapping _ tag _ => tag

/-- The value of a node that is no alias, under its local tag if it has one. -/
def taggedContent? (inner : Option Reader) (untagged : Bool) (node : Node) (budget : Nat) :
    Option (Value × Nat) :=
  match (if untagged then none else node.tag?.bind (·.localName?)) with
  | some name => do
    let (value, budget) ← content? inner true node budget
    some (.tagged name value, budget)
  | none => content? inner untagged node budget

/-- The value of a node, given the reader for what lies inside collections; without one they are
refused. An alias uses up one of those that may be followed. -/
def valueWith? (targets : List (Nat × Node)) (inner : Option Reader) : Reader :=
  fun untagged node budget =>
    match node with
    | .alias anchor =>
      match budget, targets.reverse.lookup anchor with
      | left + 1, some target => taggedContent? inner false target left
      | _, _ => none
    | _ => taggedContent? inner untagged node budget

/-- The value of a node with at most `room` levels of collections. -/
def value? (targets : List (Nat × Node)) : Nat → Reader
  | 0 => valueWith? targets none
  | room + 1 => valueWith? targets (some (value? targets room))

/-- How many aliases may be followed for each unit of length of the document. -/
def aliasFactor : Nat := 100

end Node

/-- Why a text is not read. The cause is not told. -/
inductive Error where
  | malformed
  deriving DecidableEq, Repr

def Error.message : Error → String
  | .malformed => "<yaml>"

/-- The value of a text of at most one document. -/
def value? (text : String) : Option Value := do
  let tree ← Tree.ofTokens? (← tokens? text)
  let (node, _) ← tree.number? []
  let (value, _) ←
    Node.value? node.anchored Tree.levels false node (node.extent * Node.aliasFactor)
  some value

/-- Read a text of at most one document. -/
def parse (text : String) : Except Error Value :=
  match value? text with
  | some value => .ok value
  | none => .error .malformed

end PrivacyMapping.Yaml

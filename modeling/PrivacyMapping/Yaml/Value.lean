import PrivacyMapping.Binary64.Basic

/-!
# YAML values

The values that a YAML text stands for. Mappings have values of any kind as keys. Two values are
equal when they have the same shape: a whole number never equals a floating-point number, the
not-a-number equals itself, zero has one value whatever its sign, and the order of the pairs of a
mapping does not count.
-/

namespace PrivacyMapping.Yaml

inductive Number where
  | int (n : Int)
  | float (x : Binary64)
  | infinity (negative : Bool)
  | nan
  deriving DecidableEq, Inhabited

inductive Value where
  | null
  | bool (b : Bool)
  | num (n : Number)
  | str (s : String)
  | seq (items : List Value)
  | map (pairs : List (Value × Value))
  | tagged (tag : String) (value : Value)
  deriving Inhabited

namespace Value

def sameNumber : Number → Number → Bool
  | .float x, .float y => x.sameValue y
  | m, n => m == n

/-- The name of a tag without an exclamation mark in front of it. -/
def bareTag (tag : String) : List Char :=
  match tag.toList with
  | '!' :: c :: rest => c :: rest
  | cs => cs

mutual

def same : Value → Value → Bool
  | .null, .null => true
  | .bool a, .bool b => a == b
  | .num m, .num n => sameNumber m n
  | .str s, .str t => s == t
  | .seq xs, .seq ys => sameItems xs ys
  | .map xs, .map ys => xs.length == ys.length && samePairs xs ys
  | .tagged s x, .tagged t y => bareTag s == bareTag t && same x y
  | _, _ => false

def sameItems : List Value → List Value → Bool
  | [], [] => true
  | x :: xs, y :: ys => same x y && sameItems xs ys
  | _, _ => false

/-- Whether each pair has an equal one in the other mapping. -/
def samePairs : List (Value × Value) → List (Value × Value) → Bool
  | [], _ => true
  | (key, value) :: rest, ys =>
    (ys.any fun pair => same key pair.1 && same value pair.2) && samePairs rest ys

end

end Value

end PrivacyMapping.Yaml

import PrivacyMapping.Binary64.Basic
import PrivacyMapping.Entries

/-!
# JSON values

One value type for everything the program reads and writes. Whole numbers and floating-point numbers
are told apart, as they are in the written form. An object keeps its members in order. Values are
equal when they have the same shape, members of objects being compared by key and not by place; this
is the equality by which repeated values are recognised.
-/

namespace PrivacyMapping

/-- A number: whole, or a finite floating-point number. -/
inductive Json.Number where
  | int (n : Int)
  | float (x : Binary64)
  deriving DecidableEq, Inhabited

inductive Json where
  | null
  | bool (b : Bool)
  | num (n : Json.Number)
  | str (s : String)
  | arr (items : List Json)
  | obj (members : List (String × Json))
  deriving Inhabited

namespace Json

/-- Equality of numbers: a whole number never equals a floating-point number. -/
def Number.same : Number → Number → Bool
  | .int m, .int n => m == n
  | .float x, .float y => x.sameValue y
  | _, _ => false

/-- Whether a number is zero, however it is written. -/
def Number.isZero : Number → Bool
  | .int n => n == 0
  | .float x => x.isZero

def ofNat (n : Nat) : Json :=
  .num (.int n)

/-- The member of an object under a key; other values have none. -/
def get? : Json → String → Option Json
  | .obj members, key => Entries.get? members key
  | _, _ => none

mutual

/-- Equality of values. Two objects are equal when they have as many members and each member of the
first has an equal one under the same key in the second. -/
def same : Json → Json → Bool
  | .null, .null => true
  | .bool a, .bool b => a == b
  | .num m, .num n => m.same n
  | .str s, .str t => s == t
  | .arr xs, .arr ys => sameItems xs ys
  | .obj xs, .obj ys => xs.length == ys.length && sameMembers xs ys
  | _, _ => false

def sameItems : List Json → List Json → Bool
  | [], [] => true
  | x :: xs, y :: ys => same x y && sameItems xs ys
  | _, _ => false

/-- Whether each member has an equal one under its key in the other object. -/
def sameMembers : List (String × Json) → List (String × Json) → Bool
  | [], _ => true
  | (key, x) :: rest, ys =>
    (match Entries.get? ys key with
      | some y => same x y
      | none => false) && sameMembers rest ys

end

end Json

end PrivacyMapping

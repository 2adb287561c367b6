import PrivacyMapping.Yaml.Value
import PrivacyMapping.Yaml.Tag
import PrivacyMapping.Binary64.Rounding
import PrivacyMapping.Text.Digits

/-!
# What scalars stand for

A plain scalar stands for null, a truth value, a number, or else for its own text; a quoted scalar
always stands for its text. Four tags ask for one kind of value and refuse a text that is none of
it. Whole numbers are written in decimal, or in base 16, 8 or 2 after `0x`, `0o` or `0b`. They must
fit 64 bits; those that only fit 128 bits are refused, and larger ones are floating-point numbers.
-/

namespace PrivacyMapping.Yaml.Scalar

/-- Whether a text is one of the words for null. -/
def isNull (cs : String) : Bool :=
  ["null", "Null", "NULL", "~"].contains cs

/-- The truth value that a text is a word for. -/
def bool? (s : String) : Option Bool :=
  if ["true", "True", "TRUE"].contains s then some true
  else if ["false", "False", "FALSE"].contains s then some false
  else none

/-! ## Whole numbers -/

/-- Whether a number has a minus sign, and what follows its sign, if it has one. -/
def splitSign : List Char → Bool × List Char
  | '+' :: rest => (false, rest)
  | '-' :: rest => (true, rest)
  | cs => (false, cs)

/-- Whether a text consists of several digits the first of which is zero, after an optional sign.
Such a text is not the written form of a number. -/
def hasLeadingZero (cs : List Char) : Bool :=
  let digits := (splitSign cs).2
  1 < digits.length && digits.head? == some '0' && digits.all Char.isDigit

/-- The number written without a sign in base 16, 8 or 2. -/
def basedNumber? : List Char → Option Nat
  | '0' :: 'x' :: rest => Text.number? 16 rest
  | '0' :: 'o' :: rest => Text.number? 8 rest
  | '0' :: 'b' :: rest => Text.number? 2 rest
  | _ => none

/-- The whole number that a text is the written form of. -/
def whole? (cs : List Char) : Option Int :=
  let (negative, body) := splitSign cs
  let magnitude :=
    match basedNumber? body with
    | some n => some n
    | none => if hasLeadingZero cs then none else Text.number? 10 body
  magnitude.map fun n => if negative then -(n : Int) else n

/-- What becomes of a whole number: it fits, it is refused, or it is too large to be one. -/
inductive Fit where
  | fits (n : Int)
  | refused
  | tooLarge

/-- How a whole number fits 64 and 128 bits, with or without a sign bit. -/
def fit (n : Int) : Fit :=
  if -Int.pow 2 63 ≤ n ∧ n < Int.pow 2 64 then .fits n
  else if -Int.pow 2 127 ≤ n ∧ n < Int.pow 2 128 then .refused
  else .tooLarge

/-! ## Floating-point numbers -/

/-- Whether a number has a minus sign, and what follows the sign. A plus sign is left in place. -/
def splitMinus : List Char → Bool × List Char
  | '-' :: rest => (true, rest)
  | cs => (false, cs)

/-- The digits after a point, if there is one, and what follows them. -/
def splitFraction : List Char → List Char × List Char
  | '.' :: rest => (rest.takeWhile Char.isDigit, rest.dropWhile Char.isDigit)
  | cs => ([], cs)

/-- A whole number in decimal with an optional sign. -/
def signed? : List Char → Option Int
  | '+' :: rest => (Text.number? 10 rest).map Int.ofNat
  | '-' :: rest => (Text.number? 10 rest).map fun n => -Int.ofNat n
  | cs => (Text.number? 10 cs).map Int.ofNat

/-- The exponent that ends a number; without a mark it is zero. -/
def exponent? : List Char → Option Int
  | [] => some 0
  | mark :: rest => if mark == 'e' || mark == 'E' then signed? rest else none

/-- The number written in decimal with an optional point and an optional exponent; there is a digit
before or after the point. -/
def decimal? (cs : List Char) : Option Binary64 := do
  let (negative, body) := splitMinus cs
  let whole := body.takeWhile Char.isDigit
  let (fraction, rest) := splitFraction (body.dropWhile Char.isDigit)
  let digits := whole ++ fraction
  let significand ← Text.number? 10 digits
  let exponent ← exponent? rest
  Binary64.ofDecimal? negative significand digits.length (exponent - fraction.length)

/-- The floating-point number that a text is the written form of. A number too large to be finite is
none; the infinities and the not-a-number have words of their own. -/
def float? (s : String) : Option Number :=
  if [".inf", ".Inf", ".INF", "+.inf", "+.Inf", "+.INF"].contains s then some (.infinity false)
  else if ["-.inf", "-.Inf", "-.INF"].contains s then some (.infinity true)
  else if [".nan", ".NaN", ".NAN"].contains s then some .nan
  else
    let body :=
      match s.toList with
      | '+' :: '-' :: _ => []
      | '+' :: rest => rest
      | cs => cs
    (decimal? body).map .float

/-! ## Scalars -/

/-- The value of a plain scalar, unless it is refused. -/
def plainValue? (s : String) : Option Value :=
  if s.isEmpty || isNull s then some .null
  else match bool? s with
    | some b => some (.bool b)
    | none =>
      match (whole? s.toList).map fit with
      | some (.fits n) => some (.num (.int n))
      | some .refused => none
      | _ =>
        if hasLeadingZero s.toList then some (.str s)
        else match float? s with
          | some n => some (.num n)
          | none => some (.str s)

/-- The value of a scalar with a tag that is not local, unless it is refused. Tags other than the
four leave even a plain scalar its text. -/
def taggedValue? (tag : Tag) (s : String) : Option Value :=
  if tag = Tag.bool then (bool? s).map .bool
  else if tag = Tag.int then
    match (whole? s.toList).map fit with
    | some (.fits n) => some (.num (.int n))
    | _ => none
  else if tag = Tag.float then (float? s).map .num
  else if tag = Tag.null then (if isNull s then some .null else none)
  else some (.str s)

/-- The value of a scalar, unless it is refused. A local tag leaves its resolution alone. -/
def value? (tag : Option Tag) (s : String) (plain : Bool) : Option Value :=
  let untagged := if plain then plainValue? s else some (.str s)
  match tag with
  | none => untagged
  | some tag => if tag.isLocal then untagged else taggedValue? tag s

end PrivacyMapping.Yaml.Scalar

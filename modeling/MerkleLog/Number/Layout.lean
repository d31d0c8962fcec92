import MerkleLog.Number.Decimal

/-!
# Layout of decimal numbers

A decimal number is written with a point among its digits, or with a point after the first digit and
an exponent.  Which of the two is chosen, and the details of both, are a matter of the layout.
-/

namespace MerkleLog.Number

/-- Put a minus sign in front of what is negative. -/
def signed (negative : Bool) (cs : List Char) : List Char :=
  if negative then '-' :: cs else cs

/-- The decimal digits of an integer, with a minus sign in front of a negative one. -/
def integer (n : Int) : List Char :=
  signed (n < 0) (Nat.toDigits 10 n.natAbs)

/-- A text of at least some length, filled up with zeros in front. -/
def zeroFilled (length : Nat) (cs : List Char) : List Char :=
  List.replicate (length - cs.length) '0' ++ cs

/-- Digits before and after a point, which is left out where nothing follows it. -/
def pointed (whole fraction : List Char) : List Char :=
  if fraction.isEmpty then whole else whole ++ '.' :: fraction

/-- The exponent of a number: the letter, the sign, and at least so many digits. -/
def exponentPart (letter : Char) (least : Nat) (exponent : Int) : List Char :=
  letter :: (if exponent < 0 then '-' else '+') ::
    zeroFilled least (Nat.toDigits 10 exponent.natAbs)

/-- How the shortest decimal form of a number is laid out. -/
structure Layout where
  /-- The least exponent of the first digit at which the number is written without an exponent. -/
  least : Int
  /-- The greatest such exponent. -/
  most : Int
  /-- Whether a whole number that is written without an exponent ends in a point and a zero. -/
  keepsPoint : Bool
  /-- How many digits an exponent has at least. -/
  exponentDigits : Nat
  /-- Whether zero keeps its sign. -/
  signsZero : Bool
deriving DecidableEq

namespace Layout

/-- Values that are shown: without an exponent from `0.0001` up to sixteen digits, and never without
a point or an exponent. -/
def shown : Layout := ⟨-4, 15, true, 2, true⟩

/-- Numbers in canonical JSON: without an exponent from `0.000001` up to twenty-one digits, and
never with more than is needed. -/
def canonical : Layout := ⟨-6, 20, false, 1, false⟩

/-- Digits that start at an exponent, without an exponent of their own. -/
def positional (l : Layout) (digits : List Char) (order : Int) : List Char :=
  if order < 0 then
    '0' :: '.' :: List.replicate (-order - 1).toNat '0' ++ digits
  else
    let length := order.toNat + 1
    let whole := digits.take length ++ List.replicate (length - digits.length) '0'
    let fraction := digits.drop length
    pointed whole (if fraction.isEmpty && l.keepsPoint then ['0'] else fraction)

/-- Digits with the exponent at which they start. -/
def scientific (l : Layout) (digits : List Char) (order : Int) : List Char :=
  pointed (digits.take 1) (digits.drop 1) ++ exponentPart 'e' l.exponentDigits order

/-- The magnitude of a number. -/
def magnitude (l : Layout) (d : Decimal) : List Char :=
  if l.least ≤ d.order ∧ d.order ≤ l.most then l.positional d.text d.order
  else l.scientific d.text d.order

/-- A number that is not finite, by its name. -/
def nameOf (negative isNumber : Bool) : List Char :=
  if isNumber then signed negative "inf".toList else "nan".toList

/-- A number in its shortest decimal form. -/
def write (l : Layout) : Double → List Char
  | .finite negative b =>
    signed (negative && (l.signsZero || b.significand ≠ 0)) (l.magnitude (.shortest b))
  | .infinite negative => nameOf negative true
  | .notANumber => nameOf false false

end Layout

end MerkleLog.Number

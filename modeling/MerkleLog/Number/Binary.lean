import MerkleLog.Bytes

/-!
# Binary numbers of sixty-four bits

A decimal number is taken for the nearest one of fifty-three significant bits, ties to even, as in
the common binary format of sixty-four bits.
-/

namespace MerkleLog.Number

/-- The magnitude `significand * 2 ^ exponent` of a binary number. -/
structure Binary where
  significand : Nat
  exponent : Int
deriving DecidableEq

/-- A binary number, or one of the three that are not finite. -/
inductive Double where
  | finite (negative : Bool) (magnitude : Binary)
  | infinite (negative : Bool)
  | notANumber
deriving DecidableEq

/-- A quotient rounded to the nearest natural number, ties to even. -/
def roundDiv (num den : Nat) : Nat :=
  let q := num / den
  let r := num % den
  if 2 * r < den then q
  else if den < 2 * r then q + 1
  else q + q % 2

/-- The power of a base by an exponent, and by the opposite exponent: of the two, the one with a
negative exponent is one. -/
def powers (base : Nat) (exponent : Int) : Nat × Nat :=
  (base ^ exponent.toNat, base ^ (-exponent).toNat)

namespace Binary

/-- A quotient divided by a power of two, rounded. -/
def scaledDiv (num den : Nat) (exponent : Int) : Nat :=
  let (up, down) := powers 2 exponent
  roundDiv (num * down) (den * up)

/-- Whether a quotient is at least `2 ^ 53` times a power of two. -/
def exceeds (num den : Nat) (exponent : Int) : Bool :=
  let (up, down) := powers 2 exponent
  2 ^ (53 : Nat) * (den * up) ≤ num * down

/-- A positive quotient rounded to fifty-three significant bits, or to a multiple of the least
positive number; nothing if it is beyond all of them. -/
def ofQuotient? (num den : Nat) : Option Binary :=
  let rough : Int := max ((Nat.log2 num : Int) - Nat.log2 den - 53) (-1074)
  let exponent := if exceeds num den rough then rough + 1 else rough
  let significand := scaledDiv num den exponent
  if 971 < exponent ∨ (exponent = 971 ∧ significand = 2 ^ (53 : Nat)) then none
  else some ⟨significand, exponent⟩

/-- The number `mantissa * 10 ^ exponent`, rounded.  Exponents far outside the format are decided by
size alone. -/
def ofDecimal? (mantissa : Nat) (exponent : Int) : Option Binary :=
  let digits : Int := Nat.log2 mantissa / 3 + 1
  if mantissa = 0 then some ⟨0, 0⟩
  else if exponent < 0 ∧ digits + exponent < -400 then some ⟨0, 0⟩
  else if 400 < exponent then none
  else
    let (up, down) := powers 10 exponent
    ofQuotient? (mantissa * up) down

/-- The number as a quotient. -/
def quotient (b : Binary) : Nat × Nat :=
  let (up, down) := powers 2 b.exponent
  (b.significand * up, down)

/-- The integer next to the number on the way to zero. -/
def truncate (b : Binary) : Nat :=
  let (num, den) := b.quotient
  num / den

/-- Whether the number is an integer. -/
def isIntegral (b : Binary) : Bool :=
  let (num, den) := b.quotient
  num % den == 0

end Binary

end MerkleLog.Number

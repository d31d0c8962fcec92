import MerkleLog.Number.Binary

/-!
# Decimal forms of binary numbers

A binary number is close to many decimal ones.  The shortest of those that round to it has the
fewest digits, and of these it is the nearest one.  Where a number of digits is asked for, the
number itself is rounded, ties to even.
-/

namespace MerkleLog.Number

/-- A decimal number `digits * 10 ^ exponent`. -/
structure Decimal where
  digits : Nat
  exponent : Int
deriving DecidableEq

namespace Decimal

/-- The digits as a text, most significant first. -/
def text (d : Decimal) : List Char := Nat.toDigits 10 d.digits

/-- The exponent of the first digit. -/
def order (d : Decimal) : Int := d.exponent + d.text.length - 1

/-- The exponents of the grids on which binary numbers are sought, coarsest first.  The coarsest is
beyond all of them, and the finest below their least positive one. -/
def grids : List Int := (List.range 640).map fun (i : Nat) => 310 - (i : Int)

/-- The point of the grid of multiples of `10 ^ exponent` that is nearest to a number, if it or the
other neighbour of the number on the grid rounds to the number.  The reals that do so reach half way
to the numbers above and below, and include their ends where the significand is even; below a power
of two the next number is half as far away. -/
def nearestOn? (b : Binary) (exponent : Int) : Option Nat :=
  let half := if b.significand = 2 ^ (52 : Nat) ∧ -1074 < b.exponent then 1 else 2
  let (twoUp, twoDown) := powers 2 (b.exponent - 2)
  let (tenUp, tenDown) := powers 10 exponent
  let num := twoUp * tenDown
  let den := twoDown * tenUp
  let least := (4 * b.significand - half) * num
  let most := (4 * b.significand + 2) * num
  let value := 4 * b.significand * num
  let hits (n : Nat) : Bool :=
    if b.significand % 2 = 0 then least ≤ n * den && n * den ≤ most
    else least < n * den && n * den < most
  let below := value / den
  let above := below + 1
  match hits below, hits above with
  | true, true => some (roundDiv value den)
  | true, false => some below
  | false, true => some above
  | false, false => none

/-- The shortest decimal form of a number. -/
def shortest (b : Binary) : Decimal :=
  if b.significand = 0 then ⟨0, 0⟩
  else
    match grids.findSome? fun e => (nearestOn? b e).map fun n => (⟨n, e⟩ : Decimal) with
    | some d => d
    | none => ⟨0, 0⟩

/-- The multiple of `10 ^ exponent` nearest to a number, ties to even. -/
def roundedTo (exponent : Int) (b : Binary) : Decimal :=
  let (num, den) := b.quotient
  let (up, down) := powers 10 exponent
  ⟨roundDiv (num * down) (den * up), exponent⟩

/-- The exponent of the first digit of a number. -/
def orderOf (b : Binary) : Int :=
  let (num, den) := b.quotient
  let reaches (e : Int) : Bool :=
    let (up, down) := powers 10 e
    den * up ≤ num * down
  (grids.find? reaches).getD 0

/-- A number rounded to so many digits, at least one. -/
def withDigits (count : Nat) (b : Binary) : Decimal :=
  let order := orderOf b
  let d := roundedTo (order + 1 - count) b
  if d.digits = 10 ^ count then ⟨d.digits / 10, d.exponent + 1⟩ else d

end Decimal

end MerkleLog.Number

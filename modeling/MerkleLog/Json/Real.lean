import MerkleLog.Json
import MerkleLog.Number.Binary

/-!
# Integers among real numbers

A number that is written with a fraction or an exponent is taken for the nearest binary number of
sixty-four bits.  It may stand for an integer if that number is one.
-/

namespace MerkleLog.Json.Real

open Number (Binary Double)

/-- The binary number that a real number is taken for. -/
def toDouble : Real → Double
  | finite negative mantissa exponent =>
    match Binary.ofDecimal? mantissa exponent with
    | some b => .finite negative b
    | none => .infinite negative
  | infinite negative => .infinite negative
  | notANumber => .notANumber

/-- What a real number is to a reader of integers. -/
inductive Integrality where
  | integer (n : Int)
  | fractional
  | oversized
  | notFinite
deriving DecidableEq

/-- Take a real number for an integer.  Its magnitude must stay below `2 ^ 63`. -/
def integrality (r : Real) : Integrality :=
  match r.toDouble with
  | .finite negative b =>
    if !b.isIntegral then .fractional
    else if b.truncate < 2 ^ (63 : Nat) then
      .integer (if negative then -(b.truncate : Int) else b.truncate)
    else .oversized
  | _ => .notFinite

end MerkleLog.Json.Real

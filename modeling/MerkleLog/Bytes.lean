/-!
# Byte strings

Byte strings are lists of bytes.  This file fixes their written forms: hexadecimal text, big-endian
words of a fixed width, and the UTF-8 form of a text.  The powers of natural numbers and integers
are those of the core library throughout, also in the modules that import an algebraic power beside
them.
-/

namespace MerkleLog

attribute [scoped instance (high)] instPowNat

/-- A byte string, first byte first. -/
abbrev Bytes := List UInt8

namespace Bytes

/-- The two lower-case hexadecimal digits of a byte, high half first. -/
def hexPair (b : UInt8) : List Char :=
  [Nat.digitChar (b.toNat / 16), Nat.digitChar (b.toNat % 16)]

/-- Lower-case hexadecimal text, two digits a byte. -/
def toHex (bs : Bytes) : String :=
  String.ofList (bs.flatMap hexPair)

/-- The value of a hexadecimal digit of either case. -/
def hexValue? (c : Char) : Option Nat :=
  if '0' ≤ c ∧ c ≤ '9' then some (c.toNat - '0'.toNat)
  else if 'a' ≤ c ∧ c ≤ 'f' then some (c.toNat - 'a'.toNat + 10)
  else if 'A' ≤ c ∧ c ≤ 'F' then some (c.toNat - 'A'.toNat + 10)
  else none

/-- The blanks that may stand between two bytes of hexadecimal text. -/
def isHexGap (c : Char) : Bool :=
  c = ' ' ∨ ('\t' ≤ c ∧ c ≤ '\r')

/-- Hexadecimal text read as bytes.  A byte is two digits of either case with nothing between them;
blanks may stand around bytes. -/
def ofHexChars? : List Char → Option Bytes
  | [] => some []
  | [c] => if isHexGap c then some [] else none
  | c :: d :: rest =>
    if isHexGap c then ofHexChars? (d :: rest)
    else
      match hexValue? c, hexValue? d, ofHexChars? rest with
      | some hi, some lo, some bs => some (UInt8.ofNat (16 * hi + lo) :: bs)
      | _, _, _ => none

/-- The `width` low bytes of a number, most significant first. -/
def ofNat : Nat → Nat → Bytes
  | 0, _ => []
  | width + 1, n => ofNat width (n / 256) ++ [UInt8.ofNat n]

/-- The number that a big-endian byte string denotes. -/
def toNat (bs : Bytes) : Nat :=
  bs.foldl (fun n b => 256 * n + b.toNat) 0

/-- The UTF-8 form of a text. -/
def utf8 (s : String) : Bytes :=
  s.toUTF8.data.toList

@[simp] theorem length_ofNat (width n : Nat) : (ofNat width n).length = width := by
  induction width generalizing n with
  | zero => rfl
  | succ width ih => simp [ofNat, ih]

end Bytes

end MerkleLog

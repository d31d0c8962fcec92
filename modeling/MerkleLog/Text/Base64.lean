import MerkleLog.Bytes

/-!
# Base64

Three bytes are written as four symbols of six bits each.  A last group of one or two bytes is
written as two or three symbols and filled up with `=`.  Reading is strict about the alphabet and
the filling, but bits of the last symbol that no byte needs are ignored, and after complete groups
any number of `=` is.
-/

namespace MerkleLog.Text.Base64

/-- The symbol for six bits. -/
def symbol (n : Nat) : Char :=
  if n < 26 then Char.ofNat ('A'.toNat + n)
  else if n < 52 then Char.ofNat ('a'.toNat + (n - 26))
  else if n < 62 then Char.ofNat ('0'.toNat + (n - 52))
  else if n = 62 then '+'
  else '/'

/-- The six bits of a symbol. -/
def value? (c : Char) : Option Nat :=
  if 'A' ≤ c ∧ c ≤ 'Z' then some (c.toNat - 'A'.toNat)
  else if 'a' ≤ c ∧ c ≤ 'z' then some (c.toNat - 'a'.toNat + 26)
  else if '0' ≤ c ∧ c ≤ '9' then some (c.toNat - '0'.toNat + 52)
  else if c = '+' then some 62
  else if c = '/' then some 63
  else none

/-- The written form of a byte string, character by character. -/
def encodeChars : Bytes → List Char
  | [] => []
  | [a] => [symbol (a.toNat / 4), symbol (a.toNat % 4 * 16), '=', '=']
  | [a, b] =>
    [symbol (a.toNat / 4), symbol (a.toNat % 4 * 16 + b.toNat / 16), symbol (b.toNat % 16 * 4), '=']
  | a :: b :: c :: rest =>
    symbol (a.toNat / 4) :: symbol (a.toNat % 4 * 16 + b.toNat / 16)
      :: symbol (b.toNat % 16 * 4 + c.toNat / 64) :: symbol (c.toNat % 64) :: encodeChars rest

/-- The written form of a byte string. -/
def encode (bs : Bytes) : String :=
  String.ofList (encodeChars bs)

/-- The byte strings of groups of six-bit values; a single value left over has no byte. -/
def bytesOf? : List Nat → Option Bytes
  | [] => some []
  | [_] => none
  | [a, b] => some [UInt8.ofNat (a * 4 + b / 16)]
  | [a, b, c] => some [UInt8.ofNat (a * 4 + b / 16), UInt8.ofNat (b % 16 * 16 + c / 4)]
  | a :: b :: c :: d :: rest =>
    (bytesOf? rest).map fun bs =>
      UInt8.ofNat (a * 4 + b / 16) :: UInt8.ofNat (b % 16 * 16 + c / 4)
        :: UInt8.ofNat (c % 4 * 64 + d) :: bs

/-- Whether a number of filling signs may follow a number of symbols. -/
def fills (symbols signs : Nat) : Bool :=
  match symbols % 4 with
  | 0 => symbols ≠ 0 || signs == 0
  | 2 => signs == 2
  | 3 => signs == 1
  | _ => false

/-- Read a written form, character by character. -/
def decodeChars? (cs : List Char) : Option Bytes :=
  let symbols := cs.takeWhile fun c => (value? c).isSome
  let rest := cs.dropWhile fun c => (value? c).isSome
  if rest.all (· = '=') && fills symbols.length rest.length then bytesOf? (symbols.filterMap value?)
  else none

/-- Read a written form. -/
def decode? (s : String) : Option Bytes :=
  decodeChars? s.toList

end MerkleLog.Text.Base64

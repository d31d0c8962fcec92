import MerkleLog.Bytes
import MerkleLog.Text.Character

/-!
# Integers as text

An integer is plainly written as ASCII digits after an optional minus sign, without needless zeros
in front.  A text that is not plain is cleaned once: blanks around it, a plus sign, zeros in front,
a point with zeros after it, and single underscores between digits may all be dropped.
-/

namespace MerkleLog.Text

/-- The value of an ASCII digit. -/
def asciiDigit? (c : Char) : Option Nat :=
  if '0' ≤ c ∧ c ≤ '9' then some (c.toNat - '0'.toNat) else none

/-- Whether a character is an ASCII digit. -/
def isAsciiDigit (c : Char) : Bool := (asciiDigit? c).isSome

/-- The number that decimal digits denote, most significant first. -/
def ofDigits (ds : List Nat) : Nat :=
  ds.foldl (fun n d => 10 * n + d) 0

/-- The number that a run of ASCII digits denotes. -/
def valueOf (digits : List Char) : Nat :=
  ofDigits (digits.filterMap asciiDigit?)

/-- The number of digits that an integer may have in a text that is read or written. -/
def maxDigits : Nat := 4300

/-- Whether an integer has no more digits than it may have. -/
def isWritable (n : Int) : Bool :=
  n.natAbs < 10 ^ maxDigits

/-- What a text is to a reader of integers. -/
inductive Numeral where
  | value (n : Int)
  | unreadable
  | oversized
deriving DecidableEq

namespace Numeral

/-- The number of a plain unsigned numeral, given a sign.  A run of too many digits is refused
without regard to what follows it. -/
def unsigned (negative : Bool) (cs : List Char) : Numeral :=
  let (digits, rest) := cs.span isAsciiDigit
  match digits, rest with
  | [], _ => .unreadable
  | '0' :: _ :: _, _ => .unreadable
  | digits, rest =>
    if maxDigits < digits.length then .oversized
    else if !rest.isEmpty then .unreadable
    else .value (if negative then -(valueOf digits : Int) else valueOf digits)

/-- The number of a plain numeral. -/
def plain : List Char → Numeral
  | '-' :: rest => unsigned true rest
  | cs => unsigned false cs

/-! ## Cleaning -/

/-- What follows zeros and underscores at the front of a text, where `last` is the one read last.
The zero before a point stays, and so does the last character of all. -/
def afterZeros (last : Char) : List Char → Option (List Char)
  | [] => some [last]
  | c :: rest =>
    if c = '0' ∨ c = '_' then afterZeros c rest
    else if isAsciiDigit c ∨ c = '-' then some (c :: rest)
    else if c = '.' then some (last :: c :: rest)
    else none

/-- A numeral without the zeros at its front. -/
def withoutZeros : List Char → Option (List Char)
  | '0' :: rest => afterZeros '0' rest
  | c :: rest => if isAsciiDigit c then some (c :: rest) else none
  | [] => none

/-- A numeral without its sign's plus and without the zeros at its front. -/
def withoutLead : List Char → Option (List Char)
  | '+' :: '-' :: _ => none
  | '+' :: rest => withoutZeros rest
  | '-' :: rest => (withoutZeros rest).map ('-' :: ·)
  | cs => withoutZeros cs

/-- A numeral without the point and the zeros that may follow it. -/
def withoutZeroFraction (cs : List Char) : List Char :=
  match cs.span (· ≠ '.') with
  | (whole, _ :: first :: others) => if (first :: others).all (· = '0') then whole else cs
  | _ => cs

/-- Whether two underscores stand side by side in a text. -/
def hasDoubleUnderscore : List Char → Bool
  | '_' :: '_' :: _ => true
  | _ :: rest => hasDoubleUnderscore rest
  | [] => false

/-- A numeral without underscores; unchanged if one stands at an end or beside another. -/
def withoutUnderscores (cs : List Char) : List Char :=
  if cs.head? = some '_' || cs.getLast? = some '_' || hasDoubleUnderscore cs then cs
  else cs.filter (· ≠ '_')

/-- A text with all dropped that may be dropped. -/
def cleaned (cs : List Char) : Option (List Char) :=
  (withoutLead (trim isBlank cs)).map fun cs => withoutUnderscores (withoutZeroFraction cs)

/-- What a text is to a reader of integers.  A plain text of too many digits is told apart; a text
that has to be cleaned is either a number or unreadable. -/
def read (s : String) : Numeral :=
  match plain s.toList with
  | .unreadable =>
    match (cleaned s.toList).map plain with
    | some (.value n) => .value n
    | _ => .unreadable
  | reading => reading

/-- The number of a text, if it is one. -/
def value? (s : String) : Option Int :=
  match read s with
  | .value n => some n
  | _ => none

end Numeral

end MerkleLog.Text

import MerkleLog.Json.Real
import MerkleLog.Number.Layout
import MerkleLog.Text.Numeral

/-!
# Writing JSON

Two written forms share their punctuation and differ in what they escape.  The indented form puts
every item on a line of its own and writes ASCII only; the canonical form has no blanks, sorts the
members of objects by the sixteen-bit units of their names, and is limited to integers that binary
numbers of sixty-four bits hold exactly.
-/

namespace MerkleLog.Json

/-- The lower-case hexadecimal form of a number below `2 ^ 16`, in four digits. -/
def hex4 (n : Nat) : List Char :=
  [Nat.digitChar (n / 4096 % 16), Nat.digitChar (n / 256 % 16), Nat.digitChar (n / 16 % 16),
   Nat.digitChar (n % 16)]

/-- The sixteen-bit units of a character: one, or a surrogate pair. -/
def units (c : Char) : List Nat :=
  if c.toNat < 0x10000 then [c.toNat]
  else [0xd800 + (c.toNat - 0x10000) / 0x400, 0xdc00 + (c.toNat - 0x10000) % 0x400]

/-- The short escape of a character that must be escaped, if it has one. -/
def shortEscape? : Char → Option Char
  | '"' => some '"'
  | '\\' => some '\\'
  | '\x08' => some 'b'
  | '\x0c' => some 'f'
  | '\n' => some 'n'
  | '\r' => some 'r'
  | '\t' => some 't'
  | _ => none

/-- A character within quotes.  Quotes, backslashes and control characters are escaped, and with
`ascii` the delete character and every character beyond ASCII too. -/
def quotedChar (ascii : Bool) (c : Char) : List Char :=
  match shortEscape? c with
  | some e => ['\\', e]
  | none =>
    if c.toNat < 0x20 || (ascii && 0x7f ≤ c.toNat) then
      (units c).flatMap fun n => '\\' :: 'u' :: hex4 n
    else [c]

/-- A text in quotes. -/
def quoted (ascii : Bool) (s : String) : List Char :=
  '"' :: s.toList.flatMap (quotedChar ascii) ++ ['"']

/-- A number with a fraction or an exponent. -/
def realChars (r : Real) : List Char :=
  match r.toDouble with
  | .infinite negative => Number.signed negative "Infinity".toList
  | .notANumber => "NaN".toList
  | d => Number.Layout.shown.write d

/-! ## The indented form -/

/-- A line feed and two blanks for every level. -/
def newline (level : Nat) : List Char :=
  '\n' :: List.replicate (2 * level) ' '

mutual

/-- A value that starts at a level of indentation. -/
def indentedAt (level : Nat) : Json → List Char
  | null => "null".toList
  | bool b => if b then "true".toList else "false".toList
  | int n => Number.integer n
  | real r => realChars r
  | str s => quoted true s
  | arr [] => ['[', ']']
  | arr (item :: items) =>
    '[' :: newline (level + 1) ++ indentedAt (level + 1) item ++ indentedItems (level + 1) items
      ++ newline level ++ [']']
  | obj [] => ['\x7b', '\x7d']
  | obj ((name, value) :: members) =>
    '\x7b' :: newline (level + 1) ++ quoted true name ++ ':' :: ' ' :: indentedAt (level + 1) value
      ++ indentedMembers (level + 1) members ++ newline level ++ ['\x7d']

/-- The items of an array after the first. -/
def indentedItems (level : Nat) : List Json → List Char
  | [] => []
  | item :: items => ',' :: newline level ++ indentedAt level item ++ indentedItems level items

/-- The members of an object after the first. -/
def indentedMembers (level : Nat) : List (String × Json) → List Char
  | [] => []
  | (name, value) :: members =>
    ',' :: newline level ++ quoted true name ++ ':' :: ' ' :: indentedAt level value
      ++ indentedMembers level members

end

/-- The indented form of a value. -/
def indented (v : Json) : String :=
  String.ofList (indentedAt 0 v)

/-! ## Integers that cannot be written -/

mutual

/-- The integers of a value, in order. -/
def integers : Json → List Int
  | int n => [n]
  | arr items => integersOfItems items
  | obj members => integersOfMembers members
  | null | bool _ | real _ | str _ => []

/-- The integers of the items of an array. -/
def integersOfItems : List Json → List Int
  | [] => []
  | item :: items => integers item ++ integersOfItems items

/-- The integers of the members of an object. -/
def integersOfMembers : List (String × Json) → List Int
  | [] => []
  | (_, value) :: members => integers value ++ integersOfMembers members

end

/-- The first integer of a value that has too many digits to be written. -/
def oversized? (v : Json) : Option Int :=
  v.integers.find? fun n => !Text.isWritable n

end MerkleLog.Json

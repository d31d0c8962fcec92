import MerkleLog.Json.Real
import MerkleLog.Number.Layout
import MerkleLog.Text.Quoted

/-!
# Values as they are shown

A value is shown to people in another form than it is written in: texts in single quotes, the truth
values and the absence of a value by names with capitals, and numbers with a fraction or an exponent
in the shortest form that tells them apart.
-/

namespace MerkleLog.Json

/-- Shown items with commas between them. -/
def listed : List (List Char) → List Char
  | [] => []
  | [item] => item
  | item :: items => item ++ ',' :: ' ' :: listed items

mutual

/-- A value as it is shown.  With `ascii` every character beyond ASCII in it is escaped. -/
def shownChars (ascii : Bool) : Json → List Char
  | null => "None".toList
  | bool b => if b then "True".toList else "False".toList
  | int n => Number.integer n
  | real r => Number.Layout.shown.write r.toDouble
  | str s => Text.inQuotes ascii s.toList
  | arr items => '[' :: listed (shownItems ascii items) ++ [']']
  | obj members => '\x7b' :: listed (shownMembers ascii members) ++ ['\x7d']

/-- The items of an array as they are shown. -/
def shownItems (ascii : Bool) : List Json → List (List Char)
  | [] => []
  | item :: items => shownChars ascii item :: shownItems ascii items

/-- The members of an object as they are shown. -/
def shownMembers (ascii : Bool) : List (String × Json) → List (List Char)
  | [] => []
  | (name, value) :: members =>
    (Text.inQuotes ascii name.toList ++ ':' :: ' ' :: shownChars ascii value)
      :: shownMembers ascii members

end

/-- A value as it is shown. -/
def shown (v : Json) : String :=
  String.ofList (shownChars false v)

/-- What kind of value a value is, in a word. -/
def kindName : Json → String
  | null => "NoneType"
  | bool _ => "bool"
  | int _ => "int"
  | real _ => "float"
  | str _ => "str"
  | arr _ => "list"
  | obj _ => "dict"

/-- The longest part at the front of a text that takes up so many bytes. -/
def takeBytes (count : Nat) : List Char → List Char
  | [] => []
  | c :: rest => if c.utf8Size ≤ count then c :: takeBytes (count - c.utf8Size) rest else []

/-- A value as it is shown in a report: of more than fifty bytes only the first twenty-five and the
last twenty-four. -/
def excerpt (v : Json) : String :=
  let cs := shownChars false v
  if (String.ofList cs).utf8ByteSize ≤ 50 then String.ofList cs
  else
    String.ofList (takeBytes 25 cs ++ ['.', '.', '.'] ++ (takeBytes 24 cs.reverse).reverse)

end MerkleLog.Json

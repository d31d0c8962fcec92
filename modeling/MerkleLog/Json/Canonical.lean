import MerkleLog.Error
import MerkleLog.Json.Printer

/-!
# Canonical JSON

The form of RFC 8785: no blanks, members in the order of the sixteen-bit units of their names, only
necessary escapes.  Integers must be among those that binary numbers of sixty-four bits hold
exactly, and other numbers must be finite.
-/

namespace MerkleLog.Json

/-- The largest integer up to which all integers are exact in binary numbers of sixty-four bits. -/
def maxSafe : Nat := 2 ^ (53 : Nat) - 1

/-- The sixteen-bit units of a text. -/
def unitsOf (s : String) : List Nat :=
  s.toList.flatMap units

/-- Whether one member comes before another or has the same name. -/
def memberLE (a b : String × Json) : Bool :=
  !(unitsOf b.1).lex (unitsOf a.1)

mutual

/-- A value with the members of every object in it in canonical order. -/
def sorted : Json → Json
  | arr items => arr (sortedItems items)
  | obj members => obj ((sortedMembers members).mergeSort memberLE)
  | v => v

/-- The items of an array, each sorted within. -/
def sortedItems : List Json → List Json
  | [] => []
  | item :: items => sorted item :: sortedItems items

/-- The members of an object, each sorted within. -/
def sortedMembers : List (String × Json) → List (String × Json)
  | [] => []
  | (name, value) :: members => (name, sorted value) :: sortedMembers members

end

/-- Items separated by commas. -/
def separated : List (List Char) → List Char
  | [] => []
  | [item] => item
  | item :: items => item ++ ',' :: separated items

/-- A number with a fraction or an exponent. -/
def canonicalReal (r : Real) : Except Error (List Char) :=
  let written := Number.Layout.canonical.write r.toDouble
  match r.toDouble with
  | .finite _ _ => .ok written
  | _ => .error (.notCanonical (String.ofList written))

mutual

/-- A value without blanks, its members in the order in which they stand. -/
def compact : Json → Except Error (List Char)
  | null => .ok "null".toList
  | bool b => .ok (if b then "true".toList else "false".toList)
  | int n => if n.natAbs ≤ maxSafe then .ok (Number.integer n) else .error (.unsafeInteger n)
  | real r => canonicalReal r
  | str s => .ok (quoted false s)
  | arr items => do return '[' :: separated (← compactItems items) ++ [']']
  | obj members => do return '\x7b' :: separated (← compactMembers members) ++ ['\x7d']

/-- The written items of an array. -/
def compactItems : List Json → Except Error (List (List Char))
  | [] => .ok []
  | item :: items => do
    let first ← compact item
    return first :: (← compactItems items)

/-- The written members of an object. -/
def compactMembers : List (String × Json) → Except Error (List (List Char))
  | [] => .ok []
  | (name, value) :: members => do
    let first ← compact value
    return (quoted false name ++ ':' :: first) :: (← compactMembers members)

end

/-- The canonical form of a value. -/
def canonical (v : Json) : Except Error String := do
  return String.ofList (← compact (sorted v))

end MerkleLog.Json

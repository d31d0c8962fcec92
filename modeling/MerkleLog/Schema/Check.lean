import MerkleLog.Json.Real
import MerkleLog.Schema.Fault
import MerkleLog.Text.Numeral

/-!
# Checking values

A check turns a JSON value into a typed one or lists its faults.  Checks of different fields are
joined so that the faults of all of them are told, in order.
-/

namespace MerkleLog

/-- A typed value, or the faults that stand in its way. -/
abbrev Checked (α : Type) := Except (List Fault) α

namespace Checked

variable {α β : Type}

/-- One fault, at the value itself. -/
def fail (found : Json) (cause : Cause) : Checked α :=
  .error [⟨[], cause, found⟩]

/-- The outcome of a check on a part, told from the whole. -/
def under (step : Step) : Checked α → Checked α
  | .ok a => .ok a
  | .error faults => .error (faults.map (·.under step))

/-- Two checks side by side. -/
def both : Checked α → Checked β → Checked (α × β)
  | .ok a, .ok b => .ok (a, b)
  | .ok _, .error faults => .error faults
  | .error faults, .ok _ => .error faults
  | .error faults, .error others => .error (faults ++ others)

/-- Checks on the items of a list, counted from a position. -/
def items (check : Json → Checked α) (position : Nat) : List Json → Checked (List α)
  | [] => .ok []
  | v :: rest =>
    match both ((check v).under (.index position)) (items check (position + 1) rest) with
    | .ok (a, as) => .ok (a :: as)
    | .error faults => .error faults

end Checked

namespace Schema

variable {α : Type}

open Checked (fail)

/-- A field that must be there. -/
def required (name : String) (check : Json → Checked α) (document : Json) : Checked α :=
  match document.member? name with
  | none => .error [⟨[.field name], .missing, document⟩]
  | some v => (check v).under (.field name)

/-- A field that may be absent. -/
def optional (name : String) (default : α) (check : Json → Checked α) (document : Json) :
    Checked α :=
  match document.member? name with
  | none => .ok default
  | some v => (check v).under (.field name)

/-- A text. -/
def text : Json → Checked String
  | .str s => .ok s
  | v => fail v .notText

/-- An integer, or what stands for one: a truth value, a real number without a fraction, or a text
that reads as an integer. -/
def integer : Json → Checked Int
  | .int n => .ok n
  | .bool b => .ok (if b then 1 else 0)
  | .real r =>
    match r.integrality with
    | .integer n => .ok n
    | .fractional => fail (.real r) .fractional
    | .oversized => fail (.real r) .oversized
    | .notFinite => fail (.real r) .notFinite
  | .str s =>
    match Text.Numeral.read s with
    | .value n => .ok n
    | .unreadable => fail (.str s) .unreadableInteger
    | .oversized => fail (.str s) .oversized
  | v => fail v .notInteger

/-- A list of items that pass a check. -/
def list (source : Source) (check : Json → Checked α) : Json → Checked (List α)
  | .arr items => Checked.items check 0 items
  | v => fail v (.notList source)

/-- A record: an object whose fields pass a check. -/
def record (source : Source) (name : String) (fields : Json → Checked α) : Json → Checked α
  | .obj members => fields (.obj members)
  | v => fail v (.notRecord source name)

end Schema

end MerkleLog

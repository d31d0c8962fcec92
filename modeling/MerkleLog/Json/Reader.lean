import MerkleLog.Json.Token

/-!
# Reading JSON

Tokens are put together by a machine that keeps the containers it is in, innermost first.  Every
token either completes a value, which goes to the innermost container, or opens one, or moves on
within it.
-/

namespace MerkleLog.Json

/-- Why a text is not read. -/
inductive Unreadable where
  /-- It is not JSON. -/
  | malformed
  /-- It holds an integer of too many digits. -/
  | overlong (digits : Nat)
  /-- Its containers are nested too deep. -/
  | tooDeep
deriving DecidableEq

/-- A container that is not complete.  Items are kept last first. -/
inductive Frame where
  /-- An array with its items so far. -/
  | array (items : List Json)
  /-- An object with its members so far. -/
  | object (members : List (String × Json))
  /-- An object with its members so far and the name of the next one. -/
  | member (members : List (String × Json)) (name : String)

/-- What may come next. -/
inductive Expected where
  /-- A value. -/
  | value
  /-- The first item of an array, or its end. -/
  | firstItem
  /-- The first name in an object, or its end. -/
  | firstName
  /-- A name in an object. -/
  | name
  /-- A colon after a name. -/
  | colon
  /-- A comma, or the end of the innermost container. -/
  | next
deriving DecidableEq

/-- The state of the machine. -/
inductive Reader where
  /-- In some containers, with something expected. -/
  | within (frames : List Frame) (expected : Expected)
  /-- At the end of the whole value. -/
  | done (value : Json)

namespace Reader

/-- Give a complete value to the innermost container; without one it is the whole value. -/
def place (v : Json) : List Frame → Except Unreadable Reader
  | [] => .ok (.done v)
  | .array items :: rest => .ok (.within (.array (v :: items) :: rest) .next)
  | .member members name :: rest =>
    .ok (.within (.object (setMember name v members) :: rest) .next)
  | .object _ :: _ => .error .malformed

/-- Check that containers are nested no deeper than allowed. -/
def checkDepth (d : Dialect) (frames : List Frame) : Except Unreadable Unit :=
  if frames.length ≤ d.depth then .ok () else .error .tooDeep

/-- Open a container. -/
def openFrame (d : Dialect) (frames : List Frame) (expected : Expected) :
    Except Unreadable Reader := do
  if d.emptyNests then checkDepth d frames
  return .within frames expected

/-- A token where a value is expected. -/
def value (d : Dialect) (frames : List Frame) : Token → Except Unreadable Reader
  | .beginArray => openFrame d (.array [] :: frames) .firstItem
  | .beginObject => openFrame d (.object [] :: frames) .firstName
  | .null => place .null frames
  | .bool b => place (.bool b) frames
  | .int n => place (.int n) frames
  | .real r => place (.real r) frames
  | .str s => place (.str s) frames
  | .overlong digits => .error (.overlong digits)
  | _ => .error .malformed

/-- A token where a name is expected. -/
def name : List Frame → Token → Except Unreadable Reader
  | .object members :: rest, .str s => .ok (.within (.member members s :: rest) .colon)
  | _, _ => .error .malformed

/-- Take one token. -/
def step (d : Dialect) (r : Reader) (t : Token) : Except Unreadable Reader :=
  match r with
  | .done _ => .error .malformed
  | .within frames expected =>
    match expected, t, frames with
    | .firstItem, .endArray, .array items :: rest => place (.arr items.reverse) rest
    | .firstItem, t, frames => do checkDepth d frames; value d frames t
    | .firstName, .endObject, .object members :: rest => place (.obj members) rest
    | .firstName, t, frames => do checkDepth d frames; name frames t
    | .value, t, frames => value d frames t
    | .name, t, frames => name frames t
    | .colon, .colon, frames => .ok (.within frames .value)
    | .next, .comma, .array items :: rest => .ok (.within (.array items :: rest) .value)
    | .next, .comma, .object members :: rest => .ok (.within (.object members :: rest) .name)
    | .next, .endArray, .array items :: rest => place (.arr items.reverse) rest
    | .next, .endObject, .object members :: rest => place (.obj members) rest
    | _, _, _ => .error .malformed

/-- The machine before the first token. -/
def initial : Reader := .within [] .value

end Reader

/-- The value of a text in a dialect.  Of several obstacles the first in the text is told. -/
def parse (d : Dialect) (text : String) : Except Unreadable Json := do
  match ← (Token.scan d text.toList).foldlM (Reader.step d) Reader.initial with
  | .done v => .ok v
  | .within _ _ => .error .malformed

end MerkleLog.Json

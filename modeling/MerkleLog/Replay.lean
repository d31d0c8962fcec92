import MerkleLog.Accumulator

/-!
# Replay of events

The state of the log can be rebuilt from its events, in whatever order they arrive: it is enough to
keep the newest event of every level.  Of these, an event survives only if it is newer than all
events at higher levels; an older one was consumed by a later carry.
-/

namespace MerkleLog

namespace Replay

/-- Whether an event is to replace what is kept for its level. -/
def isNewer (e : Event) : Option Event → Bool
  | none => true
  | some kept => kept.sizeAfter < e.sizeAfter

/-- Put an event into a list of kept events, which has room for it. -/
def keep (kept : List (Option Event)) (slot : Nat) (e : Event) : List (Option Event) :=
  if isNewer e (kept[slot]?.join) then kept.set slot (some e) else kept

/-- Add an event to the newest ones, which make room for its level.  A negative level counts from
the highest level kept so far, downward. -/
def observe (kept : List (Option Event)) (e : Event) : Except Error (List (Option Event)) :=
  if 0 ≤ e.level then
    let slot := e.level.toNat
    .ok (keep (kept ++ List.replicate (slot + 1 - kept.length) none) slot e)
  else
    let slot := kept.length + e.level
    if slot < 0 then .error (.noSuchLevel e.level) else .ok (keep kept slot.toNat e)

/-- The newest event of every level of a stream, level zero first; of two of the same size, the
earlier. -/
def latest (stream : List Event) : Except Error (List (Option Event)) :=
  stream.foldlM observe []

/-- The checks on the event kept for a level. -/
def check (level : Nat) (e : Event) : Except Error Unit := do
  if e.level ≠ level then throw (.wrongLevel level e.level)
  if e.sizeAfter ≤ 0 ∨ e.sizeAfter % (2 ^ level : Nat) ≠ 0 then throw (.wrongSize level e.sizeAfter)
  if !isDigest e.hash then throw (.eventNotDigest level)

/-- The digests that survive from the given level upward, and the newest size among them. -/
def survivors (level : Nat) : List (Option Event) → Except Error (List (Option Bytes) × Int)
  | [] => .ok ([], 0)
  | kept :: above => do
    let (slots, newest) ← survivors (level + 1) above
    match kept with
    | none => return (none :: slots, newest)
    | some e =>
      check level e
      if newest < e.sizeAfter then return (some e.hash :: slots, e.sizeAfter)
      else return (none :: slots, newest)

/-- A list of slots without the empty ones at its end. -/
def trim {α : Type} : List (Option α) → List (Option α)
  | [] => []
  | slot :: rest =>
    match slot, trim rest with
    | none, [] => []
    | slot, rest => slot :: rest

/-- The accumulator that the newest events of the levels leave, level zero first. -/
def accumulator (kept : List (Option Event)) : Except Error Accumulator := do
  let (slots, newest) ← survivors 0 kept
  let a ← Accumulator.ofPartials (trim slots)
  if (a.size : Int) ≠ newest then throw (.sizesDisagree a.size newest)
  return a

/-- The tree that the newest events of the levels leave. -/
def tree (kept : List (Option Event)) : Except Error Tree := do
  let a ← accumulator kept
  return Tree.ofPartials a.slots

end Replay

end MerkleLog

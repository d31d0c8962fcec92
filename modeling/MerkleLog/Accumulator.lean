import MerkleLog.Address.Key
import MerkleLog.Hash
import MerkleLog.Tree

/-!
# The accumulator

The state of the log is a binary counter.  Slot `i` holds, or does not hold, the digest of a
complete subtree of `2 ^ i` leaves; higher slots stand for older leaves, so the size of the log has
bit `i` set exactly if slot `i` is taken.  Appending a leaf carries like adding one.  It completes
one node at level zero and one at each level that the carry passes; an event announces such a node.
-/

namespace MerkleLog

/-- The announcement of a completed node. -/
structure Event where
  /-- The level of the node; a node at level `l` covers `2 ^ l` leaves. -/
  level : Int
  /-- The size of the log right after the append that completed the node. -/
  sizeAfter : Int
  /-- The digest of the node. -/
  hash : Bytes
deriving DecidableEq

/-- The address of the node: its rightmost leaf is the last one appended. -/
def Event.address (e : Event) : Address :=
  ⟨e.level, e.sizeAfter - 1⟩

/-- The digests of complete subtrees, one a slot, lowest level first. -/
structure Accumulator where
  slots : List (Option Bytes)
deriving DecidableEq

namespace Accumulator

/-- The log without leaves. -/
def empty : Accumulator := ⟨[]⟩

/-- The number of leaves that a list of slots stands for. -/
def sizeOfSlots : List (Option Bytes) → Nat
  | [] => 0
  | none :: rest => 2 * sizeOfSlots rest
  | some _ :: rest => 2 * sizeOfSlots rest + 1

/-- The number of leaves. -/
def size (a : Accumulator) : Nat := sizeOfSlots a.slots

/-- The levels whose slots are taken. -/
def levels (a : Accumulator) : List Nat :=
  (List.range a.slots.length).filter fun i => (a.slots[i]?.join).isSome

/-- A partial as a slot at the given level: the zero digest is no partial, and anything else must be
a digest. -/
def slotOf (level : Nat) : Option Bytes → Except Error (Option Bytes)
  | none => .ok none
  | some p =>
    if p = zeroDigest then .ok none
    else if isDigest p then .ok (some p)
    else .error (.partialNotDigest level)

/-- Partials from the given level upward as slots. -/
def slotsOf (level : Nat) : List (Option Bytes) → Except Error (List (Option Bytes))
  | [] => .ok []
  | p :: rest => do
    let slot ← slotOf level p
    let slots ← slotsOf (level + 1) rest
    return slot :: slots

/-- The accumulator with the given partials.  The highest one must be there, and together they must
not stand for more leaves than a log may have. -/
def ofPartials (partials : List (Option Bytes)) : Except Error Accumulator := do
  let slots ← slotsOf 0 partials
  let size := sizeOfSlots slots
  if slots.getLast? = some none then throw (.topAbsent (slots.length - 1) size)
  if maxWord < size then throw (.sizeOutOfRange size)
  return ⟨slots⟩

/-- Carry a digest into the slots: it settles in the first free one, and joins every digest that it
meets before.  Also lists the digests of the parents formed, lowest first. -/
def carry (h : Hash) : List (Option Bytes) → Bytes → List (Option Bytes) × List Bytes
  | [], d => ([some d], [])
  | none :: rest, d => (some d :: rest, [])
  | some older :: rest, d =>
    let parent := h.pair older d
    let (slots, parents) := carry h rest parent
    (none :: slots, parent :: parents)

/-- The events for digests completed by one append, from the given level upward. -/
def eventsFrom (level size : Nat) : List Bytes → List Event
  | [] => []
  | d :: rest => ⟨level, size, d⟩ :: eventsFrom (level + 1) size rest

/-- Append a leaf.  The events are those of the leaf and of every parent that it completes. -/
def append (h : Hash) (a : Accumulator) (leaf : Bytes) : Except Error (Accumulator × List Event) :=
  if !isDigest leaf then .error .leafNotDigest
  else if a.size = maxWord then .error (.full a.size)
  else
    let (slots, parents) := carry h a.slots leaf
    .ok (⟨slots⟩, eventsFrom 0 (a.size + 1) (leaf :: parents))

/-- The root of the log: the highest partial where it covers all leaves, else the digest of the tree
that the partials span. -/
def root (h : Hash) (a : Accumulator) : Except Error Bytes :=
  if a.size = 0 then .error .noRoot
  else
    match a.slots.getLast? with
    | some (some top) =>
      if a.size = 2 ^ (a.slots.length - 1) then .ok top
      else .ok ((Tree.ofPartials a.slots).digest h)
    | _ => .ok ((Tree.ofPartials a.slots).digest h)

/-- The text that shows an accumulator: its size and its taken levels. -/
def describe (a : Accumulator) : String :=
  let size := a.size
  let levels := ", ".intercalate (a.levels.map fun i => toString i)
  s!"Accumulator(size={size}, levels=[{levels}])"

end Accumulator

end MerkleLog

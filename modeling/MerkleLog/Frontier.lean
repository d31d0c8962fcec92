import Std.Data.HashMap
import MerkleLog.Hash
import MerkleLog.Plan

/-!
# The frontier of an unbalanced tree

In a tree whose size is no power of two, the block at each level that holds the first position past
the size is neither complete nor always empty.  These blocks are the frontier.  Their digests never
entered the store; they are rebuilt from the partials, from the lowest upward, against the zero
digest.
-/

namespace MerkleLog

/-- What a lookup found: the digest of an address, if there is one.  An address that was found
without a value is not told from one that was not found. -/
abbrev Found := Address → Option Bytes

/-- The digests known while a plan is resolved, by address. -/
abbrev Known := Std.HashMap Address Bytes

namespace Frontier

/-- The lowest level at which a size has a bit. -/
def base (p : Plan) : Nat :=
  ((List.range p.levels).find? fun level => p.size.testBit level).getD 0

/-- The frontier node at the base: the one right of the lowest partial. -/
def start (p : Plan) : Address :=
  let lowest := p.partialAt (base p)
  ⟨lowest.level, lowest.leaf + lowest.width⟩

/-- The digest of a frontier node. -/
def digestOf (known : Known) (node : Address) : Except Error Bytes :=
  match known[node]? with
  | some d => .ok d
  | none => .error (.frontierUnknown node)

/-- Go up one level from a frontier node, and add what this tells to the known digests.  Where the
size has a bit, the node is a right child beside a partial; elsewhere it is a left child, and the
node right of it is empty. -/
def rise (h : Hash) (p : Plan) (known : Known) (node : Address) :
    Except Error (Known × Address) := do
  let d ← digestOf known node
  if p.partialLevels.contains node.level.toNat then
    let left : Address := ⟨node.level, node.leaf - node.width⟩
    match known[left]? with
    | none => throw (.partialMissing left)
    | some older => return (known.insert left.parent (h.pair older d), left.parent)
  else
    let right : Address := ⟨node.level, node.leaf + node.width⟩
    return ((known.insert right zeroDigest).insert right.parent (h.pair d zeroDigest), right.parent)

/-- Go up a number of levels from a frontier node.  Gives the digest reached. -/
def climb (h : Hash) (p : Plan) : Nat → Known → Address → Except Error (Known × Bytes)
  | 0, known, node => do return (known, ← digestOf known node)
  | count + 1, known, node => do
    let (known, node) ← rise h p known node
    climb h p count known node

/-- Rebuild the frontier from the base upward, and the root above it.  The frontier node at the base
is empty. -/
def rebuild (h : Hash) (p : Plan) (known : Known) : Except Error (Known × Bytes) :=
  climb h p (p.levels - base p) (known.insert (start p) zeroDigest) (start p)

end Frontier

end MerkleLog

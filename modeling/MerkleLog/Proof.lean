import MerkleLog.Accumulator

/-!
# Inclusion proofs

A proof states that a leaf stands at an index of a tree with a given root, and lists the sibling
digests on the way up.  A clear bit of the index means that the running node is a left child.
-/

namespace MerkleLog

/-- A leaf, its index, the root it is proved under and the digests beside its way up, lowest
first. -/
structure Proof where
  root : Bytes
  leaf : Bytes
  index : Int
  hashes : List Bytes
deriving DecidableEq

namespace Proof

/-- The digest at the end of a path that starts at position `index` with the given digest; nothing
if a sibling is not a digest. -/
def climb (h : Hash) : Nat → Bytes → List Bytes → Option Bytes
  | _, d, [] => some d
  | index, d, sibling :: rest =>
    if !isDigest sibling then none
    else if index % 2 = 0 then climb h (index / 2) (h.pair d sibling) rest
    else climb h (index / 2) (h.pair sibling d) rest

/-- Whether a proof leads from its leaf to its root.  An index with more bits than the path has
levels would name another leaf than the path does, so it is refused. -/
def verify (h : Hash) (p : Proof) : Bool :=
  isDigest p.leaf && isDigest p.root
    && decide (0 ≤ p.index ∧ p.index < (2 ^ p.hashes.length : Nat))
    && climb h p.index.toNat p.leaf p.hashes == some p.root

/-- The proof that a leaf would stand at index `a.size` after one more append.  The partials lie on
the left of the new leaf, and nothing lies on its right. -/
def ofNextAppend (h : Hash) (a : Accumulator) (leaf : Bytes) : Except Error Proof := do
  let (next, _) ← a.append h leaf
  let root ← next.root h
  return ⟨root, leaf, a.size, a.slots.map fun slot => slot.getD zeroDigest⟩

end Proof

end MerkleLog

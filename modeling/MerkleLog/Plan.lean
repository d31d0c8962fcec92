import MerkleLog.Address.Key

/-!
# Which nodes a proof needs

To prove a leaf against a past size of the log, the store is asked once for a few nodes: the
siblings on the leaf's way up that were complete at that size, and, where the size is no power of
two, the partials of that size.  Siblings that reach past the size did not exist then; they are
rebuilt from the partials.
-/

namespace MerkleLog

/-- The number of levels of a tree, leaves included: the bit length of its size. -/
def treeLevels (size : Int) : Nat :=
  bitLength size.natAbs

/-- Whether a size is a power of two, so that its tree has no frontier. -/
def isBalanced (size : Int) : Bool :=
  0 < size && 2 ^ Nat.log2 size.toNat == size.toNat

/-- A leaf of a tree of a given size. -/
structure Plan where
  leaf : Nat
  size : Nat
  leaf_lt_size : leaf < size

namespace Plan

/-- The plan for a leaf and a size given as any integers. -/
def make (leaf size : Int) : Except Error Plan :=
  if size ≤ 0 then .error .noProof
  else if h : 0 ≤ leaf ∧ leaf < size then .ok ⟨leaf.toNat, size.toNat, by omega⟩
  else .error (.leafOutside leaf size)

/-- Whether the size is a power of two. -/
def balanced (p : Plan) : Bool := isBalanced p.size

/-- The number of levels of the tree. -/
def levels (p : Plan) : Nat := treeLevels p.size

/-- The number of steps from a leaf to the root. -/
def depth (p : Plan) : Nat :=
  if p.balanced then p.levels - 1 else p.levels

/-- The sibling on the way up at a level. -/
def siblingAt (p : Plan) (level : Nat) : Block :=
  (Block.holding level p.leaf).sibling

/-- The siblings on the way up, lowest first. -/
def nodes (p : Plan) : List Address :=
  (List.range p.depth).map fun level => (p.siblingAt level).address

/-- Whether a node was complete at the size. -/
def isComplete (p : Plan) (a : Address) : Bool :=
  a.leaf < p.size

/-- The complete block that ends the part of the log which the bits of the size from `level` upward
stand for. -/
def partialAt (p : Plan) (level : Nat) : Address :=
  ⟨level, (p.size / 2 ^ level * 2 ^ level : Nat) - 1⟩

/-- The levels of the partials, highest first: the bits of a size that is no power of two. -/
def partialLevels (p : Plan) : List Nat :=
  if p.balanced then [] else (List.range p.levels).reverse.filter fun level => p.size.testBit level

/-- The partials with their levels, highest first. -/
def partials (p : Plan) : List (Nat × Address) :=
  p.partialLevels.map fun level => (level, p.partialAt level)

/-- The nodes to ask the store for, each once. -/
def query (p : Plan) : List Address :=
  (p.nodes.filter p.isComplete ++ p.partials.map (·.2)).eraseDups

end Plan

end MerkleLog

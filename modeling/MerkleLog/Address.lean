import MerkleLog.Bytes

/-!
# Addresses of nodes

A node of the log is named by its level and by the rightmost leaf that it covers, so `(level, leaf)`
spans the leaves from `leaf - 2 ^ level + 1` to `leaf`.  Any two integers form an address; only
those of a `Block` name nodes.  A block is given by its level and its place among the blocks of that
level, counted from the left: block `(level, index)` spans the leaves from `index * 2 ^ level` up to
but without `(index + 1) * 2 ^ level`.
-/

namespace MerkleLog

/-- A level and the rightmost leaf of a node at that level. -/
structure Address where
  level : Int
  leaf : Int
deriving DecidableEq, Hashable

namespace Address

/-- The number of leaves that a node at the level of the address spans. -/
def width (a : Address) : Int := 2 ^ a.level.toNat

/-- Whether bit `level` of the leaf is set, so that a node there is a right child. -/
def isRight (a : Address) : Bool := a.leaf / a.width % 2 == 1

/-- The address with bit `level` of the leaf flipped: the other child of the same parent. -/
def sibling (a : Address) : Address :=
  ⟨a.level, if a.isRight then a.leaf - a.width else a.leaf + a.width⟩

/-- One level up, with bit `level` of the leaf set: a parent ends where its right child ends. -/
def parent (a : Address) : Address :=
  ⟨a.level + 1, if a.isRight then a.leaf else a.leaf + a.width⟩

/-- Whether one address comes before another or equals it, by level and then by leaf. -/
def le (a b : Address) : Bool :=
  a.level < b.level || (a.level == b.level && a.leaf ≤ b.leaf)

/-- Addresses in order of level and leaf. -/
def sort (addresses : List Address) : List Address :=
  addresses.mergeSort le

end Address

/-- The block in place `index` among the blocks of `2 ^ level` leaves. -/
structure Block where
  level : Nat
  index : Nat
deriving DecidableEq

namespace Block

/-- The address of a block: its level and its last leaf. -/
def address (b : Block) : Address :=
  ⟨b.level, ((b.index + 1) * 2 ^ b.level : Nat) - 1⟩

/-- The block with the same parent. -/
def sibling (b : Block) : Block :=
  ⟨b.level, if b.index % 2 = 0 then b.index + 1 else b.index - 1⟩

/-- The block of the given level that holds a leaf. -/
def holding (level leaf : Nat) : Block :=
  ⟨level, leaf / 2 ^ level⟩

end Block

end MerkleLog

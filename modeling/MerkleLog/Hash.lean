import MerkleLog.Bytes

/-!
# Digests and hash functions

A digest is a byte string of thirty-two bytes.  A `Hash` is any function from byte strings to
digests; the log, its trees and its proofs are written over an arbitrary one.
-/

namespace MerkleLog

/-- The number of bytes of a digest. -/
def digestSize : Nat := 32

/-- The digest of nothing: all bytes zero.  It stands for every subtree without a leaf. -/
def zeroDigest : Bytes := List.replicate digestSize 0

/-- Whether a byte string has the size of a digest. -/
def isDigest (bs : Bytes) : Bool := bs.length == digestSize

/-- A hash function with digests of thirty-two bytes. -/
structure Hash where
  /-- The digest of a byte string. -/
  digest : Bytes → Bytes
  /-- Every digest has thirty-two bytes. -/
  length_digest : ∀ bs, (digest bs).length = digestSize

namespace Hash

/-- The digest of a parent: the hash of its left digest followed by its right digest. -/
def pair (h : Hash) (left right : Bytes) : Bytes :=
  h.digest (left ++ right)

@[simp] theorem length_pair (h : Hash) (left right : Bytes) :
    (h.pair left right).length = digestSize :=
  h.length_digest _

end Hash

@[simp] theorem length_zeroDigest : zeroDigest.length = digestSize := by
  simp [zeroDigest]

theorem isDigest_iff {bs : Bytes} : isDigest bs = true ↔ bs.length = digestSize := by
  simp [isDigest]

end MerkleLog

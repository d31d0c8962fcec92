import MerkleLog.Hash

/-!
# Explicit trees

A tree over a number of leaf positions, its capacity.  Positions are filled from the left; a subtree
without leaves is one `empty` node with the zero digest, and a complete subtree of which only the
digest is known is a `summary`.  The log's roots and paths are those of such trees.  A tree may have
any height: that a machine walks down only so many levels is left out.
-/

namespace MerkleLog

/-- A tree of leaf positions. -/
inductive Tree where
  /-- Positions without leaves. -/
  | empty (capacity : Int)
  /-- One leaf. -/
  | leaf (hash : Bytes)
  /-- A complete subtree known by its digest. -/
  | summary (hash : Bytes) (capacity : Int)
  /-- Two subtrees side by side. -/
  | internal (left right : Tree)
deriving DecidableEq

namespace Tree

/-- The number of leaf positions. -/
def capacity : Tree → Int
  | empty n => n
  | leaf _ => 1
  | summary _ n => n
  | internal l r => l.capacity + r.capacity

/-- The digest of the root. -/
def digest (h : Hash) : Tree → Bytes
  | empty _ => zeroDigest
  | leaf d => d
  | summary d _ => d
  | internal l r => h.pair (l.digest h) (r.digest h)

/-- The digests beside the way from the leaf at a position up to the root, lowest first; nothing if
no leaf stands at the position. -/
def prove (h : Hash) : Tree → Int → Option (List Bytes)
  | empty _, _ => none
  | leaf _, i => if i = 0 then some [] else none
  | summary _ _, _ => none
  | internal l r, i =>
    if i < l.capacity then (l.prove h i).map (· ++ [r.digest h])
    else (r.prove h (i - l.capacity)).map (· ++ [l.digest h])

/-! ## From partials -/

/-- Double the capacity a number of times, with empty positions on the right. -/
def widen : Nat → Tree → Tree
  | 0, t => t
  | k + 1, t => widen k (internal t (empty t.capacity))

/-- A complete subtree at a level, given by its digest. -/
def complete (level : Nat) (d : Bytes) : Tree :=
  if level = 0 then leaf d else summary d (2 ^ level)

/-- Fold partials from the given level upward onto a tree built so far.  `lag` counts the doublings
that the tree built so far is short of the level.  Each partial covers older leaves than those below
it, so it becomes a left child. -/
def ofPartialsFrom (level : Nat) (built : Option (Tree × Nat)) : List (Option Bytes) → Option Tree
  | [] => built.map (·.1)
  | p :: rest =>
    match p.filter (· ≠ zeroDigest), built with
    | none, _ => ofPartialsFrom (level + 1) (built.map fun (t, lag) => (t, lag + 1)) rest
    | some d, none => ofPartialsFrom (level + 1) (some (complete level d, 1)) rest
    | some d, some (t, lag) =>
      ofPartialsFrom (level + 1) (some (internal (complete level d) (widen lag t), 0)) rest

/-- The tree that partials span, lowest level first.  An absent partial and the zero digest stand
for no leaves. -/
def ofPartials (partials : List (Option Bytes)) : Tree :=
  (ofPartialsFrom 0 none partials).getD (empty 1)

/-! ## From leaves -/

/-- The tree of capacity `2 ^ depth` with the given leaves from the left. -/
def ofLeavesAt : Nat → List Bytes → Tree
  | depth, [] => empty (2 ^ depth)
  | 0, d :: _ => leaf d
  | depth + 1, leaves@(_ :: _) =>
    internal (ofLeavesAt depth (leaves.take (2 ^ depth)))
      (ofLeavesAt depth (leaves.drop (2 ^ depth)))

/-- The least depth at which a tree has room for a number of leaves. -/
def depthFor (count : Nat) : Nat :=
  if count ≤ 1 then 0 else Nat.log2 (count - 1) + 1

/-- The smallest tree with the given leaves. -/
def ofLeaves (leaves : List Bytes) : Tree :=
  ofLeavesAt (depthFor leaves.length) leaves

end Tree

end MerkleLog

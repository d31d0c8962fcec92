import MerkleLog.Frontier
import MerkleLog.Proof

/-!
# From lookup results to a proof

A plan is resolved in a fixed order: every digest found must be one, the frontier must lead to the
expected root, and every sibling on the way up must be known.
-/

namespace MerkleLog

namespace Plan

/-- Add what was found for an address to the known digests. -/
def gather (found : Found) (known : Known) (a : Address) : Except Error Known :=
  match found a with
  | none => .ok known
  | some d => if isDigest d then .ok (known.insert a d) else .error (.malformedNode a)

/-- The digests found for what a plan asks for; what was found beside is ignored. -/
def collect (p : Plan) (found : Found) : Except Error Known :=
  p.query.foldlM (gather found) ∅

/-- Add the frontier of an unbalanced tree, which must lead to the expected root; nothing is to be
rebuilt in a balanced one. -/
def frontier (h : Hash) (p : Plan) (root : Bytes) (known : Known) : Except Error Known :=
  if p.balanced then .ok known
  else do
    let (known, top) ← Frontier.rebuild h p known
    if top ≠ root then throw (.rootMismatch root top p.size)
    return known

/-- The digest of a node on the way up. -/
def nodeDigest (known : Known) (a : Address) : Except Error Bytes :=
  match known[a]? with
  | some d => .ok d
  | none => .error (.nodeMissing a)

/-- Turn what a lookup found into a proof of a leaf under a root. -/
def resolve (h : Hash) (p : Plan) (root leaf : Bytes) (found : Found) : Except Error Proof := do
  if !isDigest root then throw .rootNotDigest
  let fetched ← p.collect found
  let known ← p.frontier h root fetched
  let hashes ← p.nodes.mapM (nodeDigest known)
  return ⟨root, leaf, p.leaf, hashes⟩

/-- The number of queried nodes that were found. -/
def foundCount (p : Plan) (found : Found) : Nat :=
  (p.query.filter fun a => (found a).isSome).length

end Plan

/-- Prove a leaf at an index of the tree with a root and a size, after at most one lookup. -/
def Proof.build (h : Hash) (index : Int) (leaf root : Bytes) (size : Int)
    (lookup : List Address → Except Error Found) : Except Error Proof := do
  let p ← Plan.make index size
  let found ← if p.query.isEmpty then pure fun _ => none else lookup p.query
  p.resolve h root leaf found

end MerkleLog

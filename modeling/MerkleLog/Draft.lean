import MerkleLog.Plan

/-!
# A plan made in one pass

A plan is made in place by two loops.  The first climbs from the leaf and notes a sibling at every
level.  Its place is the last leaf of the node that it has reached, so that sibling and parent are
one bit flipped and one bit set.  The second goes down the bits of the size, adds up the powers that
they stand for and notes a partial for every bit that is set.
-/

namespace MerkleLog

/-- The parts of a plan while it is made. -/
structure Draft where
  /-- The siblings on the way up, lowest first. -/
  nodes : List Address
  /-- The nodes to ask for, each once. -/
  query : List Address
  /-- The partials with their levels, highest first. -/
  partials : List (Nat × Address)
deriving DecidableEq

/-- The parts of a plan. -/
def Plan.draft (p : Plan) : Draft := ⟨p.nodes, p.query, p.partials⟩

namespace Draft

/-- The draft that nothing is noted in. -/
def blank : Draft := ⟨[], [], []⟩

/-- Ask for a node, unless it is asked for already. -/
def ask (d : Draft) (a : Address) : Draft :=
  if a ∈ d.query then d else { d with query := d.query ++ [a] }

/-- Note a sibling, and ask for it unless it reaches past the size. -/
def noteNode (size : Nat) (d : Draft) (a : Address) : Draft :=
  let noted := { d with nodes := d.nodes ++ [a] }
  if a.leaf < size then noted.ask a else noted

/-- Note the partial of a level, and ask for it. -/
def notePartial (d : Draft) (level : Nat) (a : Address) : Draft :=
  { d with partials := d.partials ++ [(level, a)] }.ask a

/-- Climb a number of levels from a place at a level. -/
def ascend (size : Nat) : Nat → Nat → Nat → Draft → Draft
  | 0, _, _, d => d
  | count + 1, level, place, d =>
    ascend size count (level + 1) (place ||| 2 ^ level)
      (d.noteNode size ⟨level, (place ^^^ 2 ^ level : Nat)⟩)

/-- Go down the bits of the size below a level, where those above add up to `total`. -/
def descend (size : Nat) : Nat → Nat → Draft → Draft
  | 0, _, d => d
  | level + 1, total, d =>
    if size &&& 2 ^ level = 0 then descend size level total d
    else
      let total := total + 2 ^ level
      descend size level total (d.notePartial level ⟨level, (total : Int) - 1⟩)

/-- The draft for a leaf and a size given as any integers. -/
def make (leaf size : Int) : Except Error Draft :=
  if size ≤ 0 then .error .noProof
  else if 0 ≤ leaf ∧ leaf < size then
    let n := size.toNat
    let levels := bitLength n
    if n &&& (n - 1) = 0 then .ok (ascend n (levels - 1) 0 leaf.toNat blank)
    else .ok (descend n levels 0 (ascend n levels 0 leaf.toNat blank))
  else .error (.leafOutside leaf size)

end Draft

end MerkleLog

import MerkleLog.Proof
import MerkleLog.Proofs.Block

/-!
# The climb of a verification

A verification climbs from a leaf to a root and hashes one pair of digests at every level.  Here the
climb is cut after any number of levels, and the pairs that it hashes are listed.  Beside the
digests of a log, the climb passes the blocks that hold the leaf.
-/

namespace MerkleLog

namespace Proof

variable {h : Hash} {leaves : List Bytes} {i : Nat} {d e s : Bytes} {siblings : List Bytes}

/-- The pair that is hashed at a position: the running digest on the left of its sibling if the
position is even, else on the right. -/
def pairAt (position : Nat) (d sibling : Bytes) : Bytes × Bytes :=
  if position % 2 = 0 then (d, sibling) else (sibling, d)

/-- The pairs that a climb hashes, lowest first. -/
def pairs (h : Hash) : Nat → Bytes → List Bytes → List (Bytes × Bytes)
  | _, _, [] => []
  | position, d, sibling :: rest =>
    let pair := pairAt position d sibling
    pair :: pairs h (position / 2) (h.pair pair.1 pair.2) rest

/-- A pair tells running digest and sibling. -/
lemma pairAt_inj {i j : Nat} {d e s t : Bytes} (hbit : i % 2 = j % 2)
    (hpair : pairAt i d s = pairAt j e t) : d = e ∧ s = t := by
  unfold pairAt at hpair
  rw [hbit] at hpair
  split at hpair
  · exact Prod.mk.inj hpair
  · exact (Prod.mk.inj hpair).symm

/-- Where one pair is read at positions on different sides, running digest and sibling change
places. -/
lemma pairAt_cross {i j : Nat} {d e s t : Bytes} (hbit : i % 2 ≠ j % 2)
    (hpair : pairAt i d s = pairAt j e t) : d = t ∧ s = e := by
  unfold pairAt at hpair
  split at hpair
  · rw [if_neg (by omega)] at hpair
    exact Prod.mk.inj hpair
  · rw [if_pos (by omega)] at hpair
    exact (Prod.mk.inj hpair).symm

lemma climb_cons (i : Nat) (d s : Bytes) (siblings : List Bytes) :
    climb h i d (s :: siblings) =
      if isDigest s then climb h (i / 2) (h.pair (pairAt i d s).1 (pairAt i d s).2) siblings
      else none := by
  rw [climb, pairAt]
  by_cases hs : isDigest s <;> by_cases hi : i % 2 = 0 <;> simp [hs, hi]

/-- A climb along one path and then another goes on where the first one ends. -/
lemma climb_append (i : Nat) (d : Bytes) (siblings above : List Bytes) :
    climb h i d (siblings ++ above)
      = (climb h i d siblings).bind fun e => climb h (i / 2 ^ siblings.length) e above := by
  -- the climb starts with the lowest sibling, and so does the induction
  induction siblings generalizing i d with
  | nil => simp [climb]
  | cons s siblings ih =>
    rw [List.cons_append, climb_cons, climb_cons, ih, List.length_cons, Nat.pow_succ',
      Nat.div_div_eq_div_mul]
    by_cases hs : isDigest s <;> simp [hs]

/-- The last step of a climb hashes the digest reached by the steps before it. -/
lemma climb_concat (i : Nat) (d s : Bytes) (siblings : List Bytes) :
    climb h i d (siblings ++ [s]) =
      (climb h i d siblings).bind fun e =>
        if isDigest s then
          some (h.pair (pairAt (i / 2 ^ siblings.length) e s).1
            (pairAt (i / 2 ^ siblings.length) e s).2)
        else none := by
  rw [climb_append]
  simp only [climb_cons]
  rfl

/-- The pairs that a climb hashes further up hold the digest reached by the steps before them. -/
lemma pairs_append (hclimb : climb h i d siblings = some e) (above : List Bytes) :
    pairs h i d (siblings ++ above)
      = pairs h i d siblings ++ pairs h (i / 2 ^ siblings.length) e above := by
  induction siblings generalizing i d with
  | nil =>
    obtain rfl : d = e := by simpa [climb] using hclimb
    simp [pairs]
  | cons t siblings ih =>
    rw [climb_cons] at hclimb
    split at hclimb
    · rw [List.cons_append, pairs, pairs, ih hclimb, List.length_cons, Nat.pow_succ',
        Nat.div_div_eq_div_mul]
      rfl
    · cases hclimb

/-- The last pair that a climb hashes holds the digest reached by the steps before it. -/
lemma pairs_concat (hclimb : climb h i d siblings = some e) (s : Bytes) :
    pairs h i d (siblings ++ [s])
      = pairs h i d siblings ++ [pairAt (i / 2 ^ siblings.length) e s] :=
  pairs_append hclimb [s]

/-- A climb does not see the bits of its position beyond its length. -/
lemma climb_add (i q : Nat) (d : Bytes) (siblings : List Bytes) :
    climb h (i + 2 ^ siblings.length * q) d siblings = climb h i d siblings := by
  induction siblings generalizing i d with
  | nil => rfl
  | cons s siblings ih =>
    have hpow : i + 2 ^ (siblings.length + 1) * q = i + 2 * (2 ^ siblings.length * q) := by ring
    have hhalf : (i + 2 * (2 ^ siblings.length * q)) / 2 = i / 2 + 2 ^ siblings.length * q := by
      omega
    have hpair : pairAt (i + 2 * (2 ^ siblings.length * q)) d s = pairAt i d s := by
      simp [pairAt]
    rw [List.length_cons, hpow, climb_cons, climb_cons, hhalf, hpair, ih]

@[simp] lemma length_pairs (i : Nat) (d : Bytes) (siblings : List Bytes) :
    (pairs h i d siblings).length = siblings.length := by
  induction siblings generalizing i d with
  | nil => rfl
  | cons s siblings ih => simp [pairs, ih]

/-- A proof is accepted if leaf and root are digests, the index is a position of a tree as high as
the path, and the climb from there ends in the root. -/
lemma verify_iff {p : Proof} : p.verify h = true ↔
    isDigest p.leaf = true ∧ isDigest p.root = true ∧
      ∃ i : Nat, p.index = i ∧ i < 2 ^ p.hashes.length ∧
        climb h i p.leaf p.hashes = some p.root := by
  simp only [verify, Bool.and_eq_true, decide_eq_true_eq, beq_iff_eq, and_assoc]
  refine and_congr_right fun _ => and_congr_right fun _ => ?_
  constructor
  · rintro ⟨hnonneg, hlt, hclimb⟩
    obtain ⟨i, hi⟩ := Int.eq_ofNat_of_zero_le hnonneg
    rw [hi] at hlt hclimb
    exact ⟨i, hi, Int.ofNat_lt.1 hlt, hclimb⟩
  · rintro ⟨i, hi, hlt, hclimb⟩
    rw [hi]
    exact ⟨Int.natCast_nonneg i, Int.ofNat_lt.2 hlt, hclimb⟩

/-- The block above starts with the block that holds the leaf or with its sibling, as the place of
the former is even or odd. -/
lemma tree_holding_succ (level : Nat)
    (hstart : (Block.holding (level + 1) i).start < leaves.length) :
    ∃ l r, (Block.holding (level + 1) i).tree leaves = .internal l r ∧
      pairAt (i / 2 ^ level) ((Block.holding level i).digest h leaves)
        ((Block.holding level i).sibling.digest h leaves) = (l.digest h, r.digest h) := by
  rw [Block.holding_succ] at hstart ⊢
  obtain ⟨q, hq⟩ : ∃ q, i / 2 ^ level = q := ⟨_, rfl⟩
  rw [Block.holding, hq] at hstart ⊢
  rcases Nat.even_or_odd' q with ⟨j, rfl | rfl⟩
  · rw [Block.parent_left] at hstart ⊢
    refine ⟨_, _, Block.tree_parent hstart, ?_⟩
    rw [pairAt, if_pos (by simp), Block.sibling_left]
    rfl
  · rw [Block.parent_right] at hstart ⊢
    refine ⟨_, _, Block.tree_parent hstart, ?_⟩
    rw [pairAt, if_neg (by simp), Block.sibling_right]
    rfl

/-- One step of a climb beside the digests of a log. -/
lemma pair_holding (level : Nat) (hstart : (Block.holding (level + 1) i).start < leaves.length) :
    h.pair
        (pairAt (i / 2 ^ level) ((Block.holding level i).digest h leaves)
          ((Block.holding level i).sibling.digest h leaves)).1
        (pairAt (i / 2 ^ level) ((Block.holding level i).digest h leaves)
          ((Block.holding level i).sibling.digest h leaves)).2
      = (Block.holding (level + 1) i).digest h leaves := by
  obtain ⟨l, r, htree, hpair⟩ := tree_holding_succ (h := h) level hstart
  rw [hpair, Block.digest, htree, Tree.digest]

/-- Beside the digests of a log, the climb from a leaf passes the blocks that hold it. -/
lemma climb_path (hleaves : ∀ d ∈ leaves, isDigest d) (hi : i < leaves.length) (level : Nat) :
    climb h i leaves[i] (Block.path h leaves i level)
      = some ((Block.holding level i).digest h leaves) := by
  induction level with
  | zero => rw [Block.holding_zero, Block.digest_leaf hi]; rfl
  | succ level ih =>
    have hstart := (Block.start_holding_le (level + 1) i).trans_lt hi
    rw [Block.path_succ, climb_concat, ih, Option.bind_some,
      if_pos (Block.isDigest_digest hleaves), Block.length_path]
    exact congrArg some (pair_holding level hstart)

/-- The path of a leaf verifies under the root of the smallest tree with the leaves. -/
lemma verify_path (hleaves : ∀ d ∈ leaves, isDigest d) (hi : i < leaves.length) :
    verify h ⟨(Tree.ofLeaves leaves).digest h, leaves[i], i,
      Block.path h leaves i (Tree.depthFor leaves.length)⟩ = true := by
  have hlt := hi.trans_le (Tree.le_two_pow_depthFor leaves.length)
  have hroot : (Tree.ofLeaves leaves).digest h
      = (Block.holding (Tree.depthFor leaves.length) i).digest h leaves := by
    rw [Block.holding_of_lt hlt, Block.ofLeaves_eq_tree, Block.digest]
  have hindex : 0 ≤ (i : Int) ∧ (i : Int) < (2 ^ Tree.depthFor leaves.length : Nat) :=
    ⟨Int.natCast_nonneg i, Int.ofNat_lt.2 hlt⟩
  rw [verify, hroot]
  simp only [hleaves _ (List.getElem_mem hi), Block.isDigest_digest hleaves, Block.length_path,
    hindex, Int.toNat_natCast, climb_path hleaves hi, and_self, decide_true, Bool.and_self,
    beq_self_eq_true]

end Proof

end MerkleLog

import MerkleLog.Hash.Sha256
import MerkleLog.Proofs.Climb
import MerkleLog.Proofs.Shape

/-!
# Accepted proofs are the paths of trees

A verification sees a leaf, a position and the digests beside the way up, but no tree.  Still it
accepts exactly what some tree proves.  From a tree the digests are listed from the root down, and
the climb reads them from the leaf up; it passes the digests of the subtrees that hold the leaf.
In the other direction, a tree is built along an accepted climb: at every level the sibling becomes
a subtree of which only the digest is known.
-/

namespace MerkleLog

namespace Tree

variable {h : Hash} {t : Tree} {i : Int} {d : Bytes} {path : List Bytes}

lemma isDigest_digest (ht : t.Digested) : isDigest (t.digest h) = true := by
  cases t with
  | empty n => exact isDigest_iff.2 length_zeroDigest
  | leaf d => exact ht
  | summary d n => exact ht
  | internal l r => exact isDigest_iff.2 (h.length_pair _ _)

/-- The climb beside the path of a leaf ends in the digest of the tree. -/
lemma climb_prove (ht : t.Halved) (hdigested : t.Digested) (hleaf : (i, leaf d) ∈ t.ends)
    (hpath : t.prove h i = some path) :
    Proof.climb h i.toNat d path = some (t.digest h) := by
  induction t generalizing i path with
  | empty n => cases hpath
  | leaf e =>
    obtain ⟨rfl, rfl⟩ := leaf_mem_ends_leaf.1 hleaf
    obtain rfl := Option.some.inj hpath
    rfl
  | summary e n => cases hpath
  | internal l r ihl ihr =>
    obtain ⟨hl, hr, heven⟩ := ht
    rw [prove] at hpath
    rcases leaf_mem_ends_internal.1 hleaf with hleft | hright
    · rw [if_pos (lt_capacity_of_mem_ends ⟨hl, hr, heven⟩ hleft)] at hpath
      obtain ⟨below, hbelow, rfl⟩ := Option.map_eq_some_iff.1 hpath
      -- the bit of the level is clear
      obtain ⟨j, rfl, hlt⟩ := exists_place hl hleft hbelow
      rw [Proof.climb_concat, ihl hl hdigested.1 hleft hbelow, Option.bind_some, Int.toNat_natCast,
        Nat.div_eq_of_lt hlt, if_pos (isDigest_digest hdigested.2)]
      rfl
    · rw [if_neg (capacity_le_of_mem_ends ⟨hl, hr, heven⟩ hright).not_gt] at hpath
      obtain ⟨below, hbelow, rfl⟩ := Option.map_eq_some_iff.1 hpath
      obtain ⟨-, hcapacity⟩ := exists_leaf_of_prove hr hbelow
      obtain ⟨j, hj, hlt⟩ := exists_place hr hright hbelow
      -- the bit of the level is set, and the climb below does not see it
      have hi : i.toNat = j + 2 ^ below.length * 1 := by
        rw [heven, hcapacity] at hj
        have hpow : (2 : Int) ^ below.length = (2 ^ below.length : Nat) := by norm_cast
        omega
      have hbit : (j + 2 ^ below.length * 1) / 2 ^ below.length = 1 := by
        rw [Nat.add_mul_div_left _ _ (Nat.two_pow_pos _), Nat.div_eq_of_lt hlt]
      have hclimb := ihr hr hdigested.2 hright hbelow
      rw [hj, Int.toNat_natCast] at hclimb
      rw [hi, Proof.climb_concat, Proof.climb_add, hclimb, Option.bind_some, hbit,
        if_pos (isDigest_digest hdigested.1)]
      rfl

/-! ## The tree along a climb -/

/-- A tree and a sibling of which only the digest is known, under one root: the tree on the left of
the sibling if its position is even, else on the right. -/
def beside (t : Tree) (sibling : Bytes) (position : Nat) : Tree :=
  if position % 2 = 0 then internal t (summary sibling t.capacity)
  else internal (summary sibling t.capacity) t

/-- A tree at a position, put beside one sibling after the other. -/
def along (t : Tree) : Nat → List Bytes → Tree
  | _, [] => t
  | position, s :: rest => (t.beside s position).along (position / 2) rest

/-- A tree with even halves in which a leaf has a path. -/
structure Proves (h : Hash) (t : Tree) (i : Nat) (d : Bytes) (path : List Bytes) : Prop where
  digested : t.Digested
  halved : t.Halved
  leaf : ((i : Int), Tree.leaf d) ∈ t.ends
  prove_eq : t.prove h i = some path

lemma proves_leaf (hd : isDigest d = true) : Proves h (leaf d) 0 d [] where
  digested := hd
  halved := trivial
  leaf := leaf_mem_ends_leaf.2 ⟨rfl, rfl⟩
  prove_eq := rfl

lemma digest_beside (t : Tree) (s : Bytes) (position : Nat) :
    (t.beside s position).digest h
      = h.pair (Proof.pairAt position (t.digest h) s).1
          (Proof.pairAt position (t.digest h) s).2 := by
  rw [beside, Proof.pairAt]
  split_ifs <;> rfl

/-- Beside a sibling, the path of a leaf is longer by it. -/
lemma Proves.beside {i : Nat} {s : Bytes} (ht : Proves h t i d path) (hs : isDigest s = true)
    (position : Nat) :
    Proves h (t.beside s position) (i + 2 ^ path.length * (position % 2)) d (path ++ [s]) := by
  obtain ⟨hdigested, hhalved, hleaf, hprove⟩ := ht
  obtain ⟨-, hlt, -⟩ := bounds_of_mem_ends hhalved hleaf
  obtain ⟨-, hcapacity⟩ := exists_leaf_of_prove hhalved hprove
  rw [Tree.beside]
  split_ifs with heven
  · rw [heven, Nat.mul_zero, Nat.add_zero]
    constructor
    · exact ⟨hdigested, hs⟩
    · exact ⟨hhalved, trivial, rfl⟩
    · exact leaf_mem_ends_internal.2 (Or.inl hleaf)
    · rw [prove, if_pos hlt, hprove]
      rfl
  · have hodd : position % 2 = 1 := by omega
    have hpow : (2 : Int) ^ path.length = (2 ^ path.length : Nat) := by norm_cast
    have hplace : ((i + 2 ^ path.length : Nat) : Int) - t.capacity = i := by omega
    rw [hodd, Nat.mul_one]
    constructor
    · exact ⟨hs, hdigested⟩
    · exact ⟨trivial, hhalved, rfl⟩
    · refine leaf_mem_ends_internal.2 (Or.inr ?_)
      rwa [capacity, hplace]
    · rw [prove, capacity, if_neg (by omega), hplace, hprove]
      rfl

/-- The tree along a climb proves the leaf that the climb is from, and has the digest that the climb
ends in. -/
lemma Proves.along {i position : Nat} {siblings : List Bytes} {root : Bytes}
    (ht : Proves h t i d path) (hposition : position < 2 ^ siblings.length)
    (hclimb : Proof.climb h position (t.digest h) siblings = some root) :
    Proves h (t.along position siblings) (i + 2 ^ path.length * position) d (path ++ siblings) ∧
      (t.along position siblings).digest h = root := by
  induction siblings generalizing t i path position with
  | nil =>
    obtain rfl : position = 0 := by simpa using hposition
    rw [Nat.mul_zero, Nat.add_zero, List.append_nil]
    exact ⟨ht, Option.some.inj hclimb⟩
  | cons s siblings ih =>
    rw [List.length_cons, Nat.pow_succ] at hposition
    rw [Proof.climb_cons, ← digest_beside] at hclimb
    split_ifs at hclimb with hs
    obtain ⟨hproves, hdigest⟩ := ih (ht.beside hs position) (by omega) hclimb
    refine ⟨?_, hdigest⟩
    -- the bits of the position are added one after the other
    have hplace : i + 2 ^ path.length * (position % 2)
        + 2 ^ (path ++ [s]).length * (position / 2) = i + 2 ^ path.length * position := by
      rw [List.length_append, List.length_singleton, Nat.pow_succ, Nat.mul_assoc, Nat.add_assoc,
        ← Nat.mul_add, Nat.mod_add_div]
    rw [hplace, List.append_assoc] at hproves
    exact hproves

end Tree

namespace Proof

variable {h : Hash}

/-- A proof is accepted exactly if it is the path of its leaf in some tree with its root.  In a tree
with even halves a position has a path exactly if a leaf stands there, and the path has a digest for
every doubling of the capacity. -/
theorem verify_iff_exists_tree (h : Hash) :
    (∀ p : Proof, p.verify h = true ↔
      ∃ t : Tree, t.Digested ∧ t.Halved ∧ t.digest h = p.root ∧
        (p.index, Tree.leaf p.leaf) ∈ t.ends ∧ t.prove h p.index = some p.hashes) ∧
    ∀ t : Tree, t.Halved → ∀ i : Int,
      (t.prove h i ≠ none ↔ ∃ d, (i, Tree.leaf d) ∈ t.ends) ∧
      ∀ path, t.prove h i = some path → t.capacity = 2 ^ path.length := by
  refine ⟨fun p => ?_, fun t ht i => ⟨?_, fun path hpath => ?_⟩⟩
  · rw [verify_iff]
    constructor
    · rintro ⟨hleaf, -, i, hi, hlt, hclimb⟩
      obtain ⟨⟨hdigested, hhalved, hmem, hprove⟩, hdigest⟩ :=
        (Tree.proves_leaf hleaf).along hlt hclimb
      rw [List.length_nil, Nat.pow_zero, Nat.one_mul, Nat.zero_add, ← hi] at hmem hprove
      exact ⟨_, hdigested, hhalved, hdigest, hmem, hprove⟩
    · rintro ⟨t, hdigested, hhalved, hdigest, hmem, hprove⟩
      obtain ⟨i, hi, hlt⟩ := Tree.exists_place hhalved hmem hprove
      have hclimb := Tree.climb_prove hhalved hdigested hmem hprove
      rw [hdigest, hi, Int.toNat_natCast] at hclimb
      refine ⟨Tree.isDigest_of_mem_ends hdigested hmem, ?_, i, hi, hlt, hclimb⟩
      rw [← hdigest]
      exact Tree.isDigest_digest hdigested
  · constructor
    · intro hne
      obtain ⟨path, hpath⟩ := Option.ne_none_iff_exists'.1 hne
      exact (Tree.exists_leaf_of_prove ht hpath).1
    · rintro ⟨d, hleaf⟩
      obtain ⟨path, hpath⟩ := Tree.exists_prove_of_leaf (h := h) ht hleaf
      exact Option.ne_none_iff_exists'.2 ⟨path, hpath⟩
  · exact (Tree.exists_leaf_of_prove ht hpath).2

/-- In the tree over three leaves the third position has a path, which is accepted, and the fourth
has none. -/
theorem verify_iff_exists_tree_threeLeaves :
    (Tree.ofLeaves Tree.threeLeaves).Halved ∧
    (∃ path, (Tree.ofLeaves Tree.threeLeaves).prove Sha256.hash 2 = some path ∧
      (Tree.ofLeaves Tree.threeLeaves).capacity = 2 ^ path.length ∧
      verify Sha256.hash ⟨(Tree.ofLeaves Tree.threeLeaves).digest Sha256.hash,
        List.replicate digestSize 3, 2, path⟩ = true) ∧
    (Tree.ofLeaves Tree.threeLeaves).prove Sha256.hash 3 = none := by
  obtain ⟨haccepts, hpositions⟩ := verify_iff_exists_tree Sha256.hash
  have hhalved : (Tree.ofLeaves Tree.threeLeaves).Halved := by decide
  have hthird :
      (2, Tree.leaf (List.replicate digestSize 3)) ∈ (Tree.ofLeaves Tree.threeLeaves).ends := by
    decide
  have hfourth : ∀ d, (3, Tree.leaf d) ∉ (Tree.ofLeaves Tree.threeLeaves).ends := by
    have hends : (Tree.ofLeaves Tree.threeLeaves).ends
        = [(0, .leaf (List.replicate digestSize 1)), (1, .leaf (List.replicate digestSize 2)),
          (2, .leaf (List.replicate digestSize 3)), (3, .empty 1)] := by decide
    intro d
    simp [hends]
  have hdigested : (Tree.ofLeaves Tree.threeLeaves).Digested := by
    have htree : Tree.ofLeaves Tree.threeLeaves
        = .internal (.internal (.leaf (List.replicate digestSize 1))
          (.leaf (List.replicate digestSize 2)))
          (.internal (.leaf (List.replicate digestSize 3)) (.empty 1)) := by decide
    rw [htree]
    simp [Tree.Digested, isDigest]
  obtain ⟨path, hpath⟩ := Option.ne_none_iff_exists'.1 ((hpositions _ hhalved 2).1.2 ⟨_, hthird⟩)
  refine ⟨hhalved, ⟨path, hpath, (hpositions _ hhalved 2).2 path hpath, ?_⟩, ?_⟩
  · exact (haccepts _).2 ⟨_, hdigested, hhalved, rfl, hthird, hpath⟩
  · by_contra hsome
    obtain ⟨d, hleaf⟩ := (hpositions _ hhalved 3).1.1 hsome
    exact hfourth d hleaf

end Proof

end MerkleLog

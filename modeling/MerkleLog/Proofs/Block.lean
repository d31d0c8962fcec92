import MerkleLog.Address
import MerkleLog.Proofs.Tree

/-!
# Blocks of leaves

Every digest that the log computes is that of a block: `2 ^ level` positions that start at a
multiple of their number.  A block may reach past the last leaf; then empty positions fill it up.
The laws here tell the digest of a block from those of its two halves.  From them follow all other
facts about digests: what the log stores, which roots it gives and which paths prove a leaf.
-/

namespace MerkleLog

namespace Block

/-- The first leaf of a block. -/
def start (b : Block) : Nat := b.index * 2 ^ b.level

/-- The first leaf after a block. -/
def stop (b : Block) : Nat := (b.index + 1) * 2 ^ b.level

/-- The block that a block and its sibling make up. -/
def parent (b : Block) : Block := ⟨b.level + 1, b.index / 2⟩

/-- The tree over the leaves of a block, of which the list may hold all, some or none. -/
def tree (leaves : List Bytes) (b : Block) : Tree :=
  Tree.ofLeavesAt b.level (leaves.drop b.start)

/-- The digest of a block. -/
def digest (h : Hash) (leaves : List Bytes) (b : Block) : Bytes :=
  (b.tree leaves).digest h

variable {h : Hash} {leaves : List Bytes} {level index i n : Nat} {b : Block}

/-! ## Halves -/

@[simp] lemma sibling_left (level index : Nat) :
    sibling ⟨level, 2 * index⟩ = ⟨level, 2 * index + 1⟩ := by
  rw [sibling, if_pos (by simp)]

@[simp] lemma sibling_right (level index : Nat) :
    sibling ⟨level, 2 * index + 1⟩ = ⟨level, 2 * index⟩ := by
  rw [sibling, if_neg (by simp), Nat.add_sub_cancel]

lemma sibling_ne (b : Block) : b.sibling ≠ b := by
  obtain ⟨level, index⟩ := b
  rcases Nat.even_or_odd' index with ⟨j, rfl | rfl⟩
  · rw [sibling_left]
    simp
  · rw [sibling_right]
    simp

@[simp] lemma parent_left (level index : Nat) :
    parent ⟨level, 2 * index⟩ = ⟨level + 1, index⟩ := by
  rw [parent, Nat.mul_div_cancel_left _ Nat.two_pos]

@[simp] lemma parent_right (level index : Nat) :
    parent ⟨level, 2 * index + 1⟩ = ⟨level + 1, index⟩ := by
  have hhalf : (2 * index + 1) / 2 = index := by omega
  rw [parent, hhalf]

/-! ## Numbers of blocks -/

/-- A bit of a number of leaves counts one block more than the blocks of the level above hold. -/
lemma div_two_pow_of_set (hbit : n.testBit level = true) :
    n / 2 ^ level = 2 * (n / 2 ^ (level + 1)) + 1 := by
  rw [Nat.testBit_eq_decide_div_mod_eq, decide_eq_true_eq] at hbit
  rw [Nat.pow_succ, ← Nat.div_div_eq_div_mul]
  omega

/-- Without the bit, the blocks of the level above hold them all. -/
lemma div_two_pow_of_clear (hbit : n.testBit level = false) :
    n / 2 ^ level = 2 * (n / 2 ^ (level + 1)) := by
  rw [Nat.testBit_eq_decide_div_mod_eq, decide_eq_false_iff_not] at hbit
  rw [Nat.pow_succ, ← Nat.div_div_eq_div_mul]
  omega

/-- With the bit, the whole blocks of a level hold one block more than those of the level above. -/
lemma div_mul_two_pow_of_set (hbit : n.testBit level = true) :
    n / 2 ^ level * 2 ^ level = n / 2 ^ (level + 1) * 2 ^ (level + 1) + 2 ^ level := by
  rw [div_two_pow_of_set hbit]
  ring

/-- Without the bit, the whole blocks of both levels hold the same leaves. -/
lemma div_mul_two_pow_of_clear (hbit : n.testBit level = false) :
    n / 2 ^ level * 2 ^ level = n / 2 ^ (level + 1) * 2 ^ (level + 1) := by
  rw [div_two_pow_of_clear hbit]
  ring

/-! ## Where blocks start and stop -/

lemma stop_eq (b : Block) : b.stop = b.start + 2 ^ b.level := by
  unfold stop start
  ring

lemma start_lt_stop (b : Block) : b.start < b.stop := by
  have := Nat.two_pow_pos b.level
  rw [stop_eq]
  omega

lemma start_left (level index : Nat) :
    start ⟨level, 2 * index⟩ = start ⟨level + 1, index⟩ := by
  simp only [start]
  ring

lemma start_right (level index : Nat) :
    start ⟨level, 2 * index + 1⟩ = start ⟨level + 1, index⟩ + 2 ^ level := by
  simp only [start]
  ring

lemma stop_right (level index : Nat) :
    stop ⟨level, 2 * index + 1⟩ = stop ⟨level + 1, index⟩ := by
  simp only [stop]
  ring

@[simp] lemma start_zero (level : Nat) : start ⟨level, 0⟩ = 0 := by
  simp [start]

@[simp] lemma start_leaf (i : Nat) : start ⟨0, i⟩ = i := by
  simp [start]

/-! ## The blocks that stop at a size -/

/-- The block of a level that stops at a size, which the number of its leaves must divide. -/
def endingAt (level size : Nat) : Block := ⟨level, size / 2 ^ level - 1⟩

lemma stop_endingAt (hdvd : 2 ^ level ∣ n) (hn : 0 < n) : (endingAt level n).stop = n := by
  have hpos : 0 < n / 2 ^ level := Nat.div_pos (Nat.le_of_dvd hn hdvd) (Nat.two_pow_pos level)
  rw [stop, endingAt, Nat.sub_add_cancel hpos, Nat.div_mul_cancel hdvd]

lemma eq_endingAt (b : Block) : b = endingAt b.level b.stop := by
  rw [endingAt, stop, Nat.mul_div_cancel _ (Nat.two_pow_pos _), Nat.add_sub_cancel]

lemma two_pow_dvd_stop (b : Block) : 2 ^ b.level ∣ b.stop :=
  Nat.dvd_mul_left _ _

lemma address_eq (b : Block) : b.address = ⟨b.level, (b.stop : Int) - 1⟩ := rfl

lemma address_leaf (i : Nat) : address ⟨0, i⟩ = ⟨0, i⟩ := by
  simp [address]

lemma address_eq_natCast (b : Block) : b.address = ⟨b.level, (b.stop - 1 : Nat)⟩ := by
  rw [address_eq, Nat.cast_pred (Nat.zero_lt_of_lt b.start_lt_stop)]

lemma address_injective {b c : Block} (haddress : b.address = c.address) : b = c := by
  rw [address_eq, address_eq, Address.mk.injEq] at haddress
  obtain ⟨hlevel, hleaf⟩ := haddress
  have hlevel' : b.level = c.level := by exact_mod_cast hlevel
  have hstop : b.stop = c.stop := by omega
  rw [b.eq_endingAt, c.eq_endingAt, hlevel', hstop]

/-! ## Addresses next to those of blocks -/

@[simp] lemma width_address (b : Block) : b.address.width = (2 ^ b.level : Nat) := by
  rw [Address.width, address, Int.toNat_natCast]
  norm_cast

/-- One width further to the right ends the next block. -/
lemma address_add_width (level index : Nat) :
    (⟨(address ⟨level, index⟩).level,
      (address ⟨level, index⟩).leaf + (address ⟨level, index⟩).width⟩ : Address)
      = address ⟨level, index + 1⟩ := by
  rw [width_address, address, address, Address.mk.injEq]
  refine ⟨rfl, ?_⟩
  push_cast
  ring

/-- One width further to the left ends the block before. -/
lemma address_sub_width (level index : Nat) :
    (⟨(address ⟨level, index + 1⟩).level,
      (address ⟨level, index + 1⟩).leaf - (address ⟨level, index + 1⟩).width⟩ : Address)
      = address ⟨level, index⟩ := by
  rw [width_address, address, address, Address.mk.injEq]
  refine ⟨rfl, ?_⟩
  push_cast
  ring

/-- A block is a right child if its place is odd. -/
lemma isRight_address (b : Block) : b.address.isRight = decide (b.index % 2 = 1) := by
  have hpos : (0 : Int) < (2 ^ b.level : Nat) := Int.natCast_pos.2 (Nat.two_pow_pos b.level)
  have hplace : b.address.leaf / (2 ^ b.level : Nat) = b.index := by
    rw [Int.ediv_eq_iff_of_pos hpos, address, Nat.add_one_mul, Int.natCast_add, Int.natCast_mul]
    dsimp only
    constructor <;> omega
  rw [Address.isRight, width_address, hplace, Bool.eq_iff_iff, beq_iff_eq, decide_eq_true_eq]
  omega

lemma sibling_address (b : Block) : b.address.sibling = b.sibling.address := by
  obtain ⟨level, index⟩ := b
  rw [Address.sibling, isRight_address]
  rcases Nat.even_or_odd' index with ⟨j, rfl | rfl⟩
  · rw [if_neg (by simp), address_add_width, sibling_left]
  · rw [if_pos (by simp), address_sub_width, sibling_right]

lemma parent_address (b : Block) : b.address.parent = b.parent.address := by
  obtain ⟨level, index⟩ := b
  rw [Address.parent, isRight_address, Address.mk.injEq]
  refine ⟨rfl, ?_⟩
  rcases Nat.even_or_odd' index with ⟨j, rfl | rfl⟩
  · rw [parent_left, if_neg (by simp), width_address, address_eq, address_eq, ← stop_right, stop_eq,
      stop_eq, start_left, start_right]
    push_cast
    ring
  · rw [parent_right, if_pos (by simp), address_eq, address_eq, stop_right]

/-! ## Trees and digests of blocks -/

lemma tree_parent (hstart : start ⟨level + 1, index⟩ < leaves.length) :
    tree leaves ⟨level + 1, index⟩
      = .internal (tree leaves ⟨level, 2 * index⟩) (tree leaves ⟨level, 2 * index + 1⟩) := by
  have hne : leaves.drop (start ⟨level + 1, index⟩) ≠ [] := by
    rw [Ne, List.drop_eq_nil_iff]
    omega
  rw [tree, Tree.ofLeavesAt_succ hne, List.drop_drop, tree, tree, start_left, start_right]

lemma tree_of_length_le (hstart : leaves.length ≤ b.start) :
    b.tree leaves = .empty (2 ^ b.level) := by
  rw [tree, List.drop_eq_nil_of_le hstart, Tree.ofLeavesAt_nil]

lemma tree_leaf (hi : i < leaves.length) : tree leaves ⟨0, i⟩ = .leaf leaves[i] := by
  rw [tree, start_leaf, List.drop_eq_getElem_cons hi, Tree.ofLeavesAt_zero_cons]

lemma ofLeaves_eq_tree (leaves : List Bytes) :
    Tree.ofLeaves leaves = tree leaves ⟨Tree.depthFor leaves.length, 0⟩ := by
  rw [tree, start_zero, List.drop_zero, Tree.ofLeaves]

lemma digest_ofLeaves {depth : Nat} (hlow : 2 ^ depth < 2 * leaves.length)
    (hhigh : leaves.length ≤ 2 ^ depth) :
    (Tree.ofLeaves leaves).digest h = digest h leaves ⟨depth, 0⟩ := by
  rw [ofLeaves_eq_tree, Tree.depthFor_eq hlow hhigh, digest]

/-- A block within the log has the digest of the smallest tree with its leaves. -/
lemma digest_eq_ofLeaves (hstop : b.stop ≤ leaves.length) :
    b.digest h leaves
      = (Tree.ofLeaves ((leaves.drop b.start).take (2 ^ b.level))).digest h := by
  have hpos := Nat.two_pow_pos b.level
  have hlength : ((leaves.drop b.start).take (2 ^ b.level)).length = 2 ^ b.level := by
    rw [stop_eq] at hstop
    rw [List.length_take, List.length_drop]
    omega
  rw [Tree.ofLeaves, Tree.depthFor_eq (by omega) hlength.le, Tree.ofLeavesAt_take le_rfl, digest,
    tree]

/-- The digest of a block that starts within the log joins those of its halves. -/
lemma digest_parent (hstart : start ⟨level + 1, index⟩ < leaves.length) :
    digest h leaves ⟨level + 1, index⟩
      = h.pair (digest h leaves ⟨level, 2 * index⟩) (digest h leaves ⟨level, 2 * index + 1⟩) := by
  rw [digest, tree_parent hstart]
  rfl

/-- A block past the log has the zero digest. -/
lemma digest_of_length_le (hstart : leaves.length ≤ b.start) :
    b.digest h leaves = zeroDigest := by
  rw [digest, tree_of_length_le hstart]
  rfl

lemma digest_leaf (hi : i < leaves.length) : digest h leaves ⟨0, i⟩ = leaves[i] := by
  rw [digest, tree_leaf hi]
  rfl

/-- A block that ends within a part of the log does not see what comes after that part. -/
lemma digest_take (hstop : b.stop ≤ n) : b.digest h (leaves.take n) = b.digest h leaves := by
  have := b.stop_eq
  rw [digest, digest, tree, tree, List.drop_take, Tree.ofLeavesAt_take (by omega)]

lemma isDigest_digest (hleaves : ∀ d ∈ leaves, isDigest d) :
    isDigest (b.digest h leaves) := by
  obtain ⟨level, index⟩ := b
  rcases Nat.lt_or_ge (start ⟨level, index⟩) leaves.length with hstart | hstart
  · cases level with
    | zero =>
      have hi : index < leaves.length := by simpa using hstart
      rw [digest_leaf hi]
      exact hleaves _ (List.getElem_mem hi)
    | succ level =>
      rw [digest_parent hstart, isDigest_iff]
      exact h.length_pair _ _
  · rw [digest_of_length_le hstart, isDigest_iff]
    exact length_zeroDigest

/-! ## The blocks that hold a leaf -/

@[simp] lemma holding_zero (i : Nat) : holding 0 i = ⟨0, i⟩ := by
  simp [holding]

lemma holding_succ (level i : Nat) : holding (level + 1) i = (holding level i).parent := by
  simp [holding, parent, Nat.pow_succ, Nat.div_div_eq_div_mul]

/-- The blocks that hold a leaf are the parents above it. -/
lemma iterate_parent_address (level i : Nat) :
    Address.parent^[level] (address ⟨0, i⟩) = (holding level i).address := by
  induction level with
  | zero => rw [holding_zero, Function.iterate_zero_apply]
  | succ level ih => rw [Function.iterate_succ_apply', ih, parent_address, holding_succ]

lemma start_holding_le (level i : Nat) : (holding level i).start ≤ i :=
  Nat.div_mul_le_self i _

lemma lt_stop_holding (level i : Nat) : i < (holding level i).stop :=
  Nat.lt_mul_of_div_lt (Nat.lt_succ_self _) (Nat.two_pow_pos level)

lemma holding_of_lt (hi : i < 2 ^ level) : holding level i = ⟨level, 0⟩ := by
  rw [holding, Nat.div_eq_of_lt hi]

/-! ## Paths -/

/-- The digests beside the way up from a position through a number of levels, lowest first. -/
def path (h : Hash) (leaves : List Bytes) (i depth : Nat) : List Bytes :=
  (List.range depth).map fun level => (holding level i).sibling.digest h leaves

@[simp] lemma length_path (i depth : Nat) : (path h leaves i depth).length = depth := by
  simp [path]

lemma path_succ (i depth : Nat) :
    path h leaves i (depth + 1)
      = path h leaves i depth ++ [(holding depth i).sibling.digest h leaves] := by
  rw [path, List.range_succ, List.map_append]
  rfl

/-- A position in the left half is proved there, and beside the right half. -/
lemma prove_left (hstart : start ⟨level + 1, index⟩ < leaves.length) {place : Nat}
    (hplace : place < 2 ^ level) :
    (tree leaves ⟨level + 1, index⟩).prove h place
      = ((tree leaves ⟨level, 2 * index⟩).prove h place).map
          (· ++ [digest h leaves ⟨level, 2 * index + 1⟩]) := by
  have hleft : (place : Int) < (tree leaves ⟨level, 2 * index⟩).capacity := by
    rw [tree, Tree.capacity_ofLeavesAt]
    exact_mod_cast hplace
  rw [tree_parent hstart, Tree.prove, if_pos hleft, digest]

/-- A position in the right half is proved there, and beside the left half. -/
lemma prove_right (hstart : start ⟨level + 1, index⟩ < leaves.length) (place : Nat) :
    (tree leaves ⟨level + 1, index⟩).prove h (place + 2 ^ level : Nat)
      = ((tree leaves ⟨level, 2 * index + 1⟩).prove h place).map
          (· ++ [digest h leaves ⟨level, 2 * index⟩]) := by
  have hcapacity : (tree leaves ⟨level, 2 * index⟩).capacity = (2 ^ level : Nat) := by
    rw [tree, Tree.capacity_ofLeavesAt]
    norm_cast
  have hright : ((place + 2 ^ level : Nat) : Int) - (2 ^ level : Nat) = place := by omega
  rw [tree_parent hstart, Tree.prove, hcapacity, if_neg (by omega), hright, digest]

/-- The tree over a block proves each of its leaves by the digests beside the way up. -/
lemma prove_tree (hi : i < leaves.length) :
    ((holding level i).tree leaves).prove h (i - (holding level i).start : Nat)
      = some (path h leaves i level) := by
  induction level with
  | zero =>
    rw [holding_zero, tree_leaf hi, start_leaf]
    simp [Tree.prove, path]
  | succ level ih =>
    have hstart := (start_holding_le (level + 1) i).trans_lt hi
    have hle := start_holding_le level i
    have hlt := lt_stop_holding level i
    obtain ⟨q, hq⟩ : ∃ q, holding level i = ⟨level, q⟩ := ⟨_, rfl⟩
    rw [hq, stop_eq] at hlt
    rw [hq] at ih hle
    dsimp only at hlt
    rw [holding_succ, hq] at hstart ⊢
    rw [path_succ, hq]
    -- the leaf lies in the half that the block below fills
    rcases Nat.even_or_odd' q with ⟨j, rfl | rfl⟩
    · have hplace : i - start ⟨level, 2 * j⟩ < 2 ^ level := by omega
      rw [parent_left] at hstart ⊢
      rw [← start_left, prove_left hstart hplace, ih, sibling_left, Option.map_some]
    · have hplace : i - start ⟨level + 1, j⟩ = i - start ⟨level, 2 * j + 1⟩ + 2 ^ level := by
        have hright := start_right level j
        omega
      rw [parent_right] at hstart ⊢
      rw [hplace, prove_right hstart, ih, sibling_right, Option.map_some]

/-- The smallest tree with some leaves proves each of them. -/
lemma prove_ofLeaves (hi : i < leaves.length) :
    (Tree.ofLeaves leaves).prove h i
      = some (path h leaves i (Tree.depthFor leaves.length)) := by
  have hroot : holding (Tree.depthFor leaves.length) i = ⟨Tree.depthFor leaves.length, 0⟩ :=
    holding_of_lt (hi.trans_le (Tree.le_two_pow_depthFor _))
  rw [← prove_tree hi, hroot, ofLeaves_eq_tree, start_zero, Nat.sub_zero]

/-! ## Subtrees -/

/-- Below the tree over a block stand the trees over the blocks that it is made of. -/
lemma subtree?_tree {down place : Nat} (hplace : place < 2 ^ down)
    (hstart : start ⟨level, index * 2 ^ down + place⟩ < leaves.length) :
    (tree leaves ⟨level + down, index⟩).subtree? down place
      = some (tree leaves ⟨level, index * 2 ^ down + place⟩) := by
  -- going down goes up in the index: a step into a half doubles it
  induction down generalizing index place with
  | zero =>
    obtain rfl : place = 0 := by omega
    simp [Tree.subtree?]
  | succ down ih =>
    have hpow : 2 ^ (down + 1) = 2 ^ down + 2 ^ down := by ring
    have hroot : start ⟨level + down + 1, index⟩ < leaves.length := by
      refine lt_of_le_of_lt ?_ hstart
      simp only [start]
      calc index * 2 ^ (level + down + 1) = index * 2 ^ (down + 1) * 2 ^ level := by ring
        _ ≤ (index * 2 ^ (down + 1) + place) * 2 ^ level :=
          Nat.mul_le_mul_right _ (Nat.le_add_right _ _)
    rw [← Nat.add_assoc, tree_parent hroot, Tree.subtree?]
    by_cases hhalf : place < 2 ^ down
    · have hindex : index * 2 ^ (down + 1) + place = 2 * index * 2 ^ down + place := by ring
      rw [hindex] at hstart ⊢
      rw [if_pos hhalf, ih hhalf hstart]
    · have hindex : index * 2 ^ (down + 1) + place
          = (2 * index + 1) * 2 ^ down + (place - 2 ^ down) := by
        obtain ⟨rest, rfl⟩ := Nat.exists_eq_add_of_le (not_lt.1 hhalf)
        rw [Nat.add_sub_cancel_left]
        ring
      rw [hindex] at hstart ⊢
      rw [if_neg hhalf, ih (by omega) hstart]

/-- In the tree over the first positions, the block that holds a position stands in its place. -/
lemma subtree?_holding {depth : Nat} (hlevel : level ≤ depth) (hi : i < 2 ^ depth)
    (hstart : (holding level i).start < leaves.length) :
    (tree leaves ⟨depth, 0⟩).subtree? (depth - level) (i / 2 ^ level)
      = some ((holding level i).tree leaves) := by
  obtain ⟨down, rfl⟩ := Nat.exists_eq_add_of_le hlevel
  have hplace : i / 2 ^ level < 2 ^ down := by
    rwa [Nat.div_lt_iff_lt_mul (Nat.two_pow_pos _), ← Nat.pow_add, Nat.add_comm]
  -- the root is the first block of its level
  have hindex : (⟨level, 0 * 2 ^ down + i / 2 ^ level⟩ : Block) = holding level i := by
    rw [Nat.zero_mul, Nat.zero_add, holding]
  rw [Nat.add_sub_cancel_left, ← hindex]
  exact subtree?_tree hplace (by rwa [hindex])

end Block

end MerkleLog

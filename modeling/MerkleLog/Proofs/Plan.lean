import MerkleLog.Plan
import MerkleLog.Proofs.Block

/-!
# What a plan asks for

A plan asks for complete blocks only: the siblings on the way up that stop within the size and,
where the size is no power of two, one block for every bit of the size.  Where it is a power of
two, every sibling on the way up is complete.
-/

namespace MerkleLog

namespace Plan

variable {p : Plan} {level : Nat} {a : Address}

lemma size_of_make_eq_ok {leaf size : Int} (hp : make leaf size = .ok p) :
    (p.size : Int) = size := by
  rw [make] at hp
  split_ifs at hp with hsize
  obtain rfl := Except.ok.inj hp
  exact Int.toNat_of_nonneg (not_le.1 hsize).le

lemma make_eq {i n : Nat} (hi : i < n) : make i n = .ok ⟨i, n, hi⟩ := by
  rw [make, if_neg (by omega), dif_pos (by omega)]
  rfl

/-! ## The depth of the tree -/

lemma size_pos (p : Plan) : 0 < p.size :=
  Nat.zero_lt_of_lt p.leaf_lt_size

lemma levels_eq (p : Plan) : p.levels = Nat.log2 p.size + 1 := by
  rw [levels, treeLevels, Int.natAbs_natCast, bitLength, if_neg p.size_pos.ne']

lemma balanced_iff : p.balanced = true ↔ p.size = 2 ^ Nat.log2 p.size := by
  have hpos := p.size_pos
  simp only [balanced, isBalanced, Int.toNat_natCast, Bool.and_eq_true, decide_eq_true_eq,
    beq_iff_eq]
  constructor
  · rintro ⟨-, hpow⟩
    exact hpow.symm
  · intro hpow
    exact ⟨by omega, hpow.symm⟩

lemma balanced_iff_isPowerOfTwo : p.balanced = true ↔ p.size.isPowerOfTwo := by
  rw [balanced_iff]
  constructor
  · exact fun hpow => ⟨_, hpow⟩
  · rintro ⟨k, hpow⟩
    rw [hpow, Nat.log2_two_pow]

lemma two_pow_log2_le (p : Plan) : 2 ^ Nat.log2 p.size ≤ p.size :=
  Nat.log2_self_le p.size_pos.ne'

lemma size_lt_two_pow_levels (p : Plan) : p.size < 2 ^ p.levels := by
  rw [levels_eq]
  exact Nat.lt_log2_self

/-- The way from a leaf to the root has as many steps as the smallest tree with the leaves has
levels of inner nodes. -/
lemma depth_eq (p : Plan) : p.depth = Tree.depthFor p.size := by
  have hpos := p.size_pos
  have hlow := p.two_pow_log2_le
  have hhigh := p.size_lt_two_pow_levels
  rw [depth]
  split
  case isTrue hbalanced =>
    rw [balanced_iff] at hbalanced
    rw [levels_eq, Nat.add_sub_cancel]
    exact (Tree.depthFor_eq (by omega) hbalanced.le).symm
  case isFalse hbalanced =>
    rw [balanced_iff] at hbalanced
    refine (Tree.depthFor_eq ?_ hhigh.le).symm
    rw [levels_eq, Nat.pow_succ]
    omega

lemma depth_le_levels (p : Plan) : p.depth ≤ p.levels := by
  rw [depth]
  split <;> omega

/-! ## The blocks asked for -/

lemma isComplete_address (b : Block) : p.isComplete b.address = true ↔ b.stop ≤ p.size := by
  rw [isComplete, decide_eq_true_eq, Block.address_eq]
  dsimp only
  omega

lemma exists_odd_of_testBit (hbit : p.size.testBit level = true) :
    ∃ j, p.size / 2 ^ level = 2 * j + 1 :=
  ⟨_, Block.div_two_pow_of_set hbit⟩

/-- The block that a bit of the size stands for is the sibling of the block that holds the first
position past the size. -/
lemma partialAt_eq (hbit : p.size.testBit level = true) :
    p.partialAt level = (Block.holding level p.size).sibling.address := by
  obtain ⟨j, hj⟩ := exists_odd_of_testBit hbit
  rw [partialAt, Block.holding, hj, Block.sibling_right]
  rfl

lemma stop_partial_le (hbit : p.size.testBit level = true) :
    (Block.holding level p.size).sibling.stop ≤ p.size := by
  obtain ⟨j, hj⟩ := exists_odd_of_testBit hbit
  have hle := Nat.div_mul_le_self p.size (2 ^ level)
  rw [hj] at hle
  rw [Block.holding, hj, Block.sibling_right]
  exact hle

/-- No bit is set beyond the levels of the tree. -/
lemma lt_levels_of_testBit (hbit : p.size.testBit level = true) : level < p.levels := by
  have hlow := Nat.ge_two_pow_of_testBit hbit
  exact (Nat.pow_lt_pow_iff_right Nat.one_lt_two).1 (hlow.trans_lt p.size_lt_two_pow_levels)

/-- There is a partial for every bit of a size that is no power of two. -/
lemma mem_partialLevels :
    level ∈ p.partialLevels ↔ p.balanced = false ∧ p.size.testBit level = true := by
  rw [partialLevels]
  cases p.balanced with
  | true => simp
  | false =>
    rw [if_neg Bool.false_ne_true, List.mem_filter, List.mem_reverse, List.mem_range]
    exact ⟨fun hlevel => ⟨rfl, hlevel.2⟩, fun hlevel => ⟨lt_levels_of_testBit hlevel.2, hlevel.2⟩⟩

lemma contains_partialLevels (hbalanced : p.balanced = false) (level : Nat) :
    p.partialLevels.contains level = p.size.testBit level := by
  rw [Bool.eq_iff_iff, List.contains_iff_mem, mem_partialLevels]
  exact and_iff_right hbalanced

lemma mem_partials : (level, a) ∈ p.partials ↔
    p.balanced = false ∧ p.size.testBit level = true ∧ p.partialAt level = a := by
  rw [partials, List.mem_map, ← and_assoc, ← mem_partialLevels]
  constructor
  · rintro ⟨level', hlevel, heq⟩
    obtain ⟨rfl, rfl⟩ := Prod.mk.inj heq
    exact ⟨hlevel, rfl⟩
  · rintro ⟨hlevel, rfl⟩
    exact ⟨level, hlevel, rfl⟩

/-! ## Level by level -/

/-- The siblings below a level. -/
def nodesBelow (p : Plan) (level : Nat) : List Address :=
  (List.range level).map fun level => (p.siblingAt level).address

/-- What the bits of the size below a level stand for. -/
def partialsBelow (p : Plan) (level : Nat) : List (Nat × Address) :=
  ((List.range level).reverse.filter fun level => p.size.testBit level).map
    fun level => (level, p.partialAt level)

lemma nodes_eq (p : Plan) : p.nodes = p.nodesBelow p.depth := rfl

lemma partials_eq (hbalanced : p.balanced = false) : p.partials = p.partialsBelow p.levels := by
  rw [partials, partialLevels, if_neg (by simp [hbalanced]), partialsBelow]

lemma partials_eq_nil (hbalanced : p.balanced = true) : p.partials = [] := by
  rw [partials, partialLevels, if_pos hbalanced, List.map_nil]

lemma nodesBelow_succ (p : Plan) (level : Nat) :
    p.nodesBelow (level + 1) = p.nodesBelow level ++ [(p.siblingAt level).address] := by
  rw [nodesBelow, List.range_succ, List.map_append]
  rfl

lemma partialsBelow_of_set (hbit : p.size.testBit level = true) :
    p.partialsBelow (level + 1) = (level, p.partialAt level) :: p.partialsBelow level := by
  rw [partialsBelow, List.range_succ, List.reverse_concat, List.filter_cons_of_pos hbit]
  rfl

lemma partialsBelow_of_clear (hbit : p.size.testBit level = false) :
    p.partialsBelow (level + 1) = p.partialsBelow level := by
  rw [partialsBelow, List.range_succ, List.reverse_concat,
    List.filter_cons_of_neg (Bool.eq_false_iff.1 hbit)]
  rfl

/-! ## What is asked for -/

lemma mem_query : a ∈ p.query ↔
    (∃ level < p.depth, (p.siblingAt level).address = a ∧ p.isComplete a = true) ∨
      (p.balanced = false ∧ ∃ level, p.size.testBit level = true ∧ p.partialAt level = a) := by
  rw [query, List.mem_eraseDups, List.mem_append, List.mem_filter, nodes]
  refine or_congr ?_ ?_
  · simp only [List.mem_map, List.mem_range]
    constructor
    · rintro ⟨⟨level, hlevel, rfl⟩, hcomplete⟩
      exact ⟨level, hlevel, rfl, hcomplete⟩
    · rintro ⟨level, hlevel, rfl, hcomplete⟩
      exact ⟨⟨level, hlevel, rfl⟩, hcomplete⟩
  · rw [List.mem_map]
    constructor
    · rintro ⟨⟨level, a'⟩, hpartial, rfl⟩
      obtain ⟨hbalanced, hbit, haddress⟩ := mem_partials.1 hpartial
      exact ⟨hbalanced, level, hbit, haddress⟩
    · rintro ⟨hbalanced, level, hbit, rfl⟩
      exact ⟨(level, _), mem_partials.2 ⟨hbalanced, hbit, rfl⟩, rfl⟩

/-- A sibling that was complete at the size is asked for. -/
lemma siblingAt_mem_query (hlevel : level < p.depth)
    (hcomplete : p.isComplete (p.siblingAt level).address = true) :
    (p.siblingAt level).address ∈ p.query :=
  mem_query.2 (Or.inl ⟨level, hlevel, rfl, hcomplete⟩)

/-- A partial is asked for. -/
lemma partialAt_mem_query (hbalanced : p.balanced = false) (hbit : p.size.testBit level = true) :
    p.partialAt level ∈ p.query :=
  mem_query.2 (Or.inr ⟨hbalanced, level, hbit, rfl⟩)

/-- All that a plan asks for was complete at its size. -/
lemma exists_block_of_mem_query (ha : a ∈ p.query) :
    ∃ b : Block, b.address = a ∧ b.stop ≤ p.size := by
  rcases mem_query.1 ha with ⟨level, -, rfl, hcomplete⟩ | ⟨-, level, hbit, rfl⟩
  · exact ⟨_, rfl, (isComplete_address _).1 hcomplete⟩
  · exact ⟨_, (partialAt_eq hbit).symm, stop_partial_le hbit⟩

/-- What a plan asks for lies before the size. -/
lemma leaf_lt_of_mem_query (ha : a ∈ p.query) : a.leaf < p.size := by
  obtain ⟨b, rfl, hstop⟩ := exists_block_of_mem_query ha
  rw [Block.address_eq]
  dsimp only
  omega

/-- The sibling on the way up ends where its parent ends, or before. -/
lemma stop_siblingAt_le (p : Plan) (level : Nat) :
    (p.siblingAt level).stop ≤ (Block.holding (level + 1) p.leaf).stop := by
  rw [siblingAt, Block.holding_succ, Block.holding]
  rcases Nat.even_or_odd' (p.leaf / 2 ^ level) with ⟨j, hj | hj⟩
  · rw [hj, Block.sibling_left, Block.parent_left]
    exact (Block.stop_right level j).le
  · rw [hj, Block.sibling_right, Block.parent_right, ← Block.stop_right]
    exact Nat.mul_le_mul_right _ (by simp)

/-- Where the size is made of whole blocks of the level above, every sibling is complete. -/
lemma stop_siblingAt_of_dvd (hdvd : 2 ^ (level + 1) ∣ p.size) :
    (p.siblingAt level).stop ≤ p.size := by
  -- the leaf lies in one of those blocks
  have hlt : p.leaf / 2 ^ (level + 1) < p.size / 2 ^ (level + 1) :=
    Nat.div_lt_div_of_lt_of_dvd hdvd p.leaf_lt_size
  calc (p.siblingAt level).stop
      ≤ (Block.holding (level + 1) p.leaf).stop := p.stop_siblingAt_le level
    _ = (p.leaf / 2 ^ (level + 1) + 1) * 2 ^ (level + 1) := rfl
    _ ≤ p.size / 2 ^ (level + 1) * 2 ^ (level + 1) := Nat.mul_le_mul_right _ hlt
    _ ≤ p.size := Nat.div_mul_le_self _ _

/-- In a tree with a power of two of leaves, every sibling on the way up is complete. -/
lemma stop_siblingAt_of_balanced (hbalanced : p.balanced = true) (hlevel : level < p.depth) :
    (p.siblingAt level).stop ≤ p.size := by
  have hsize := balanced_iff.1 hbalanced
  have hdepth : p.depth = Nat.log2 p.size := by
    rw [depth, if_pos hbalanced, levels_eq, Nat.add_sub_cancel]
  rw [hdepth] at hlevel
  refine stop_siblingAt_of_dvd ?_
  rw [hsize]
  exact Nat.pow_dvd_pow 2 hlevel

end Plan

end MerkleLog

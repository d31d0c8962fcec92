import MerkleLog.Frontier
import MerkleLog.Proofs.Outcome
import MerkleLog.Proofs.Plan

/-!
# The rebuilt frontier

The frontier block at a level is the one that holds the first position past the size.  Climbing it
is climbing from that position: where the size has a bit, the block is a right child beside a
partial, and elsewhere a left child beside a block without leaves.  The climb makes known all that a
path may meet past the size: at every level from the base upward the frontier block or, where the
size has no bit, the block right of it.  Over the partials of a log, the frontier that is rebuilt is
that of the leaves of the size, whatever the log holds beyond it.
-/

namespace MerkleLog

namespace Frontier

variable {h : Hash} {leaves : List Bytes} {p : Plan} {found : Found} {known : Known}
  {level count : Nat} {b : Block} {a : Address}

/-! ## Frontier blocks -/

/-- The frontier block at a level. -/
def block (p : Plan) (level : Nat) : Block :=
  Block.holding level p.size

lemma block_succ (p : Plan) (level : Nat) : block p (level + 1) = (block p level).parent :=
  Block.holding_succ level p.size

lemma size_lt_stop_block (p : Plan) (level : Nat) : p.size < (block p level).stop :=
  Block.lt_stop_holding level p.size

/-- Where the size has a bit, the frontier block is a right child. -/
lemma block_of_set (hbit : p.size.testBit level = true) :
    ∃ j, block p level = ⟨level, 2 * j + 1⟩ := by
  exact ⟨_, by rw [block, Block.holding, Block.div_two_pow_of_set hbit]⟩

/-- Where the size has no bit, the frontier block is a left child. -/
lemma block_of_clear (hbit : p.size.testBit level = false) :
    ∃ j, block p level = ⟨level, 2 * j⟩ := by
  exact ⟨_, by rw [block, Block.holding, Block.div_two_pow_of_clear hbit]⟩

/-- The base is the lowest bit of the size. -/
lemma base_spec (p : Plan) :
    base p < p.levels ∧ p.size.testBit (base p) = true ∧
      ∀ l < base p, p.size.testBit l = false := by
  have htop : Nat.log2 p.size ∈ List.range p.levels := by
    rw [List.mem_range, p.levels_eq]
    exact Nat.lt_succ_self _
  have htest : p.size.testBit (Nat.log2 p.size) = true := Nat.testBit_log2 p.size_pos.ne'
  rw [base]
  cases hfind : (List.range p.levels).find? fun level => p.size.testBit level with
  | none => exact absurd htest (List.find?_eq_none.1 hfind _ htop)
  | some l =>
    obtain ⟨hbit, hmem, hbelow⟩ := List.find?_range_eq_some.1 hfind
    exact ⟨List.mem_range.1 hmem, hbit, fun j hj => by simpa using hbelow j hj⟩

lemma two_pow_dvd_size (hlevel : level ≤ base p) : 2 ^ level ∣ p.size := by
  obtain ⟨-, -, hbelow⟩ := base_spec p
  refine Nat.dvd_of_mod_eq_zero (Nat.eq_of_testBit_eq fun l => ?_)
  rw [Nat.testBit_mod_two_pow, Nat.zero_testBit]
  by_cases hl : l < level
  · rw [hbelow l (by omega), Bool.and_false]
  · rw [decide_eq_false hl, Bool.false_and]

/-- Above the base the frontier block starts before the size. -/
lemma start_block_lt (hlevel : base p < level) : (block p level).start < p.size := by
  obtain ⟨-, hbit, -⟩ := base_spec p
  refine lt_of_le_of_ne (Block.start_holding_le level p.size) fun hstart => ?_
  have hmod : p.size % 2 ^ level = 0 := by
    rw [← hstart]
    exact Nat.mul_mod_left _ _
  -- the base is a bit below the level, and the remainder still has it
  have hclear := congrArg (fun n => n.testBit (base p)) hmod
  simp only [Nat.testBit_mod_two_pow, hlevel, hbit, decide_true, Bool.and_self, Nat.zero_testBit,
    reduceCtorEq] at hclear

/-- Up to the base the frontier block is empty. -/
lemma digest_block_of_le (hsize : leaves.length = p.size) (hlevel : level ≤ base p) :
    (block p level).digest h leaves = zeroDigest := by
  refine Block.digest_of_length_le ?_
  rw [block, Block.start, Block.holding, Nat.div_mul_cancel (two_pow_dvd_size hlevel), hsize]

/-- The block right of a frontier block is empty. -/
lemma size_lt_start_sibling (hbit : p.size.testBit level = false) :
    p.size < (block p level).sibling.start := by
  have hstop := size_lt_stop_block p level
  obtain ⟨j, hj⟩ := block_of_clear hbit
  rw [hj] at hstop ⊢
  rw [Block.sibling_left]
  exact hstop

/-! ## What the climb makes known -/

/-- The digest of the frontier block at a level over the partials that were found. -/
def digest (h : Hash) (p : Plan) (found : Found) : Nat → Bytes
  | 0 => zeroDigest
  | level + 1 =>
    if level < base p then zeroDigest
    else if p.size.testBit level then
      h.pair ((found (p.partialAt level)).getD zeroDigest) (digest h p found level)
    else h.pair (digest h p found level) zeroDigest

lemma digest_of_le (hlevel : level ≤ base p) : digest h p found level = zeroDigest := by
  cases level with
  | zero => rfl
  | succ level => rw [digest, if_pos (Nat.lt_of_succ_le hlevel)]

lemma digest_succ_of_set {older : Bytes} (hlevel : base p ≤ level)
    (hbit : p.size.testBit level = true) (holder : found (p.partialAt level) = some older) :
    digest h p found (level + 1) = h.pair older (digest h p found level) := by
  rw [digest, if_neg hlevel.not_gt, if_pos hbit, holder, Option.getD_some]

lemma digest_succ_of_clear (hlevel : base p ≤ level) (hbit : p.size.testBit level = false) :
    digest h p found (level + 1) = h.pair (digest h p found level) zeroDigest := by
  rw [digest, if_neg hlevel.not_gt, if_neg (by rw [hbit]; exact Bool.false_ne_true)]

/-- What is known once the frontier is rebuilt up to a level: what was found, the frontier blocks,
and the empty blocks right of those that are left children. -/
structure Climbed (h : Hash) (p : Plan) (found : Found) (level : Nat) (known : Known) : Prop where
  fetched : ∀ a ∈ p.query, known[a]? = found a
  node : ∀ l, base p ≤ l → l ≤ level → known[(block p l).address]? = some (digest h p found l)
  beside : ∀ l, base p ≤ l → l < level → p.size.testBit l = false →
    known[(block p l).sibling.address]? = some zeroDigest

lemma getElem?_insert_of_ne {a b : Address} (hne : a ≠ b) (d : Bytes) :
    (known.insert a d)[b]? = known[b]? := by
  rw [Std.HashMap.getElem?_insert, if_neg (by simpa using hne)]

/-- Nothing past the size is asked for. -/
lemma address_ne_of_mem_query (hb : p.size < b.stop) (ha : a ∈ p.query) : b.address ≠ a := by
  rintro rfl
  obtain ⟨c, hc, hstop⟩ := Plan.exists_block_of_mem_query ha
  obtain rfl := Block.address_injective hc
  omega

lemma address_ne_of_level {b c : Block} (hlevel : b.level ≠ c.level) : b.address ≠ c.address :=
  fun heq => hlevel (congrArg Block.level (Block.address_injective heq))

lemma size_lt_stop_sibling (hbit : p.size.testBit level = false) :
    p.size < (block p level).sibling.stop :=
  (size_lt_start_sibling hbit).trans (Block.start_lt_stop _)

namespace Climbed

/-- The empty block right of the frontier block becomes known. -/
lemma insert_beside (hknown : Climbed h p found level known) (hbit : p.size.testBit level = false) :
    Climbed h p found level (known.insert (block p level).sibling.address zeroDigest) where
  fetched a ha := by
    rw [getElem?_insert_of_ne (address_ne_of_mem_query (size_lt_stop_sibling hbit) ha)]
    exact hknown.fetched a ha
  node l hbase hl := by
    rw [getElem?_insert_of_ne]
    · exact hknown.node l hbase hl
    · intro heq
      have hblock := Block.address_injective heq
      obtain rfl : level = l := congrArg Block.level hblock
      exact Block.sibling_ne _ hblock
  beside l hbase hl hclear := by
    rw [getElem?_insert_of_ne (address_ne_of_level (show level ≠ l by omega))]
    exact hknown.beside l hbase hl hclear

/-- The frontier block of the next level becomes known. -/
lemma insert_node (hknown : Climbed h p found level known) {d : Bytes}
    (hd : digest h p found (level + 1) = d)
    (hbeside : p.size.testBit level = false →
      known[(block p level).sibling.address]? = some zeroDigest) :
    Climbed h p found (level + 1) (known.insert (block p (level + 1)).address d) where
  fetched a ha := by
    rw [getElem?_insert_of_ne (address_ne_of_mem_query (size_lt_stop_block p _) ha)]
    exact hknown.fetched a ha
  node l hbase hl := by
    rcases Nat.eq_or_lt_of_le hl with rfl | hl
    · rw [Std.HashMap.getElem?_insert_self, hd]
    · rw [getElem?_insert_of_ne (address_ne_of_level (show level + 1 ≠ l by omega))]
      exact hknown.node l hbase (Nat.le_of_lt_succ hl)
  beside l hbase hl hclear := by
    rw [getElem?_insert_of_ne (address_ne_of_level (show level + 1 ≠ l by omega))]
    rcases Nat.eq_or_lt_of_le (Nat.le_of_lt_succ hl) with rfl | hl
    · exact hbeside hclear
    · exact hknown.beside l hbase hl hclear

/-! ## One step -/

lemma digestOf_eq (hknown : Climbed h p found level known) (hlevel : base p ≤ level) :
    digestOf known (block p level).address = .ok (digest h p found level) := by
  rw [digestOf, hknown.node level hlevel le_rfl]

/-- Where the size has no bit, the climb goes up beside an empty block. -/
lemma rise_of_clear (hknown : Climbed h p found level known) (hlevel : base p ≤ level)
    (hbalanced : p.balanced = false) (hbit : p.size.testBit level = false) :
    ∃ known', rise h p known (block p level).address = .ok (known', (block p (level + 1)).address) ∧
      Climbed h p found (level + 1) known' := by
  obtain ⟨j, hj⟩ := block_of_clear hbit
  have hright : (⟨(block p level).address.level,
      (block p level).address.leaf + (block p level).address.width⟩ : Address)
      = (block p level).sibling.address := by
    rw [hj, Block.address_add_width, Block.sibling_left]
  have hparent : (block p level).sibling.address.parent = (block p (level + 1)).address := by
    rw [Block.parent_address, block_succ, hj, Block.sibling_left, Block.parent_right,
      Block.parent_left]
  have hcontains : ¬p.partialLevels.contains level = true := by
    rw [Plan.contains_partialLevels hbalanced, hbit]
    exact Bool.false_ne_true
  have hd : digest h p found (level + 1) = _ := digest_succ_of_clear hlevel hbit
  have hbeside := hknown.insert_beside hbit
  refine ⟨_, ?_, hbeside.insert_node hd fun _ => Std.HashMap.getElem?_insert_self⟩
  rw [rise, hknown.digestOf_eq hlevel, ok_bind]
  refine (if_neg hcontains).trans ?_
  dsimp only
  rw [hright, hparent]
  rfl

/-- At a partial, the climb looks left. -/
lemma rise_left (hknown : Climbed h p found level known) (hlevel : base p ≤ level)
    (hbalanced : p.balanced = false) (hbit : p.size.testBit level = true) :
    rise h p known (block p level).address =
      match found (p.partialAt level) with
      | none => .error (.partialMissing (p.partialAt level))
      | some older =>
        .ok (known.insert (block p (level + 1)).address (h.pair older (digest h p found level)),
          (block p (level + 1)).address) := by
  obtain ⟨j, hj⟩ := block_of_set hbit
  have hpartial : p.partialAt level = Block.address ⟨level, 2 * j⟩ := by
    rw [Plan.partialAt_eq hbit, ← block, hj, Block.sibling_right]
  have hleft : (⟨(block p level).address.level,
      (block p level).address.leaf - (block p level).address.width⟩ : Address)
      = p.partialAt level := by
    rw [hpartial, hj, Block.address_sub_width]
  have hparent : (p.partialAt level).parent = (block p (level + 1)).address := by
    rw [hpartial, Block.parent_address, block_succ, hj, Block.parent_left, Block.parent_right]
  have hcontains : p.partialLevels.contains level = true := by
    rw [Plan.contains_partialLevels hbalanced, hbit]
  rw [rise, hknown.digestOf_eq hlevel, ok_bind]
  refine (if_pos hcontains).trans ?_
  dsimp only
  rw [hleft, hparent, hknown.fetched _ (Plan.partialAt_mem_query hbalanced hbit)]
  cases found (p.partialAt level) <;> rfl

/-- Where the size has a bit, the climb goes up beside the partial. -/
lemma rise_of_set (hknown : Climbed h p found level known) (hlevel : base p ≤ level)
    (hbalanced : p.balanced = false) (hbit : p.size.testBit level = true)
    (hpartial : found (p.partialAt level) ≠ none) :
    ∃ known', rise h p known (block p level).address = .ok (known', (block p (level + 1)).address) ∧
      Climbed h p found (level + 1) known' := by
  obtain ⟨older, holder⟩ := Option.ne_none_iff_exists'.1 hpartial
  have hd : digest h p found (level + 1) = _ := digest_succ_of_set hlevel hbit holder
  have hclear : p.size.testBit level = false →
      known[(block p level).sibling.address]? = some zeroDigest := by
    rw [hbit]
    exact nofun
  refine ⟨_, ?_, hknown.insert_node hd hclear⟩
  rw [hknown.rise_left hlevel hbalanced hbit, holder]

/-- Unless a partial is absent, the climb goes up. -/
lemma rise_eq_ok (hknown : Climbed h p found level known) (hlevel : base p ≤ level)
    (hbalanced : p.balanced = false)
    (hpartial : p.size.testBit level = true → found (p.partialAt level) ≠ none) :
    ∃ known', rise h p known (block p level).address = .ok (known', (block p (level + 1)).address) ∧
      Climbed h p found (level + 1) known' := by
  cases hbit : p.size.testBit level with
  | true => exact hknown.rise_of_set hlevel hbalanced hbit (hpartial hbit)
  | false => exact hknown.rise_of_clear hlevel hbalanced hbit

/-! ## The whole climb -/

/-- With all partials, the climb reaches the digest of the highest frontier block. -/
lemma climb_eq_ok (hknown : Climbed h p found level known) (hlevel : base p ≤ level)
    (hbalanced : p.balanced = false)
    (hpartials : ∀ l, p.size.testBit l = true → found (p.partialAt l) ≠ none) (count : Nat) :
    ∃ known', climb h p count known (block p level).address
        = .ok (known', digest h p found (level + count)) ∧
      Climbed h p found (level + count) known' := by
  induction count generalizing level known with
  | zero =>
    refine ⟨known, ?_, hknown⟩
    rw [climb, hknown.digestOf_eq hlevel]
    rfl
  | succ count ih =>
    obtain ⟨next, hrise, hnext⟩ := hknown.rise_eq_ok hlevel hbalanced (hpartials level)
    obtain ⟨last, hclimb, hlast⟩ := ih hnext (hlevel.trans (Nat.le_succ level))
    rw [Nat.add_right_comm] at hclimb hlast
    refine ⟨last, ?_, hlast⟩
    rw [climb, hrise, ok_bind]
    exact hclimb

/-- Of the partials that are absent, the climb meets the lowest. -/
lemma climb_eq_error (hknown : Climbed h p found level known) (hlevel : base p ≤ level)
    (hbalanced : p.balanced = false) {low : Nat} (hlow : level ≤ low) (hcount : low < level + count)
    (hbit : p.size.testBit low = true) (habsent : found (p.partialAt low) = none)
    (hbelow : ∀ l < low, p.size.testBit l = true → found (p.partialAt l) ≠ none) :
    climb h p count known (block p level).address = .error (.partialMissing (p.partialAt low)) := by
  induction count generalizing level known with
  | zero => omega
  | succ count ih =>
    rw [climb]
    rcases Nat.eq_or_lt_of_le hlow with rfl | hlt
    · rw [hknown.rise_left hlevel hbalanced hbit, habsent]
      rfl
    · obtain ⟨next, hrise, hnext⟩ := hknown.rise_eq_ok hlevel hbalanced (hbelow level hlt)
      rw [hrise, ok_bind]
      exact ih hnext (hlevel.trans (Nat.le_succ level)) hlt (by omega)

end Climbed

/-! ## Rebuilding -/

/-- Before the climb, what was found and the frontier block at the base are known. -/
lemma climbed_start (hknown : ∀ a ∈ p.query, known[a]? = found a) :
    Climbed h p found (base p) (known.insert (block p (base p)).address zeroDigest) where
  fetched a ha := by
    rw [getElem?_insert_of_ne (address_ne_of_mem_query (size_lt_stop_block p _) ha)]
    exact hknown a ha
  node l hbase hl := by
    obtain rfl : base p = l := le_antisymm hbase hl
    rw [Std.HashMap.getElem?_insert_self, digest_of_le le_rfl]
  beside l hbase hl := absurd hbase hl.not_ge

lemma start_eq (p : Plan) : start p = (block p (base p)).address := by
  obtain ⟨-, hbit, -⟩ := base_spec p
  obtain ⟨j, hj⟩ := block_of_set hbit
  rw [start, Plan.partialAt_eq hbit, ← block, hj, Block.sibling_right]
  exact Block.address_add_width (base p) (2 * j)

/-- With all partials, the frontier is rebuilt. -/
lemma rebuild_eq_ok (hbalanced : p.balanced = false) (hknown : ∀ a ∈ p.query, known[a]? = found a)
    (hpartials : ∀ l, p.size.testBit l = true → found (p.partialAt l) ≠ none) :
    ∃ known', rebuild h p known = .ok (known', digest h p found p.levels) ∧
      Climbed h p found p.levels known' := by
  obtain ⟨hbase, -, -⟩ := base_spec p
  have hclimb := (climbed_start (h := h) hknown).climb_eq_ok le_rfl hbalanced hpartials
    (p.levels - base p)
  rw [Nat.add_sub_cancel' hbase.le] at hclimb
  rwa [rebuild, start_eq]

/-- Without some partials, it is the lowest of these that is reported. -/
lemma rebuild_eq_error (hbalanced : p.balanced = false)
    (hknown : ∀ a ∈ p.query, known[a]? = found a) (hbit : p.size.testBit level = true)
    (habsent : found (p.partialAt level) = none)
    (hbelow : ∀ l < level, p.size.testBit l = true → found (p.partialAt l) ≠ none) :
    rebuild h p known = .error (.partialMissing (p.partialAt level)) := by
  obtain ⟨hbase, -, hclear⟩ := base_spec p
  have hlow : base p ≤ level := by
    by_contra hlt
    rw [hclear level (not_le.1 hlt)] at hbit
    cases hbit
  have hhigh := Plan.lt_levels_of_testBit hbit
  rw [rebuild, start_eq]
  exact (climbed_start hknown).climb_eq_error le_rfl hbalanced hlow (by omega) hbit habsent hbelow

/-! ## Siblings past the size -/

/-- Below the base no sibling reaches past the size. -/
lemma base_le_of_past (hreach : p.size < (p.siblingAt level).stop) : base p ≤ level := by
  by_contra hlevel
  exact hreach.not_ge (Plan.stop_siblingAt_of_dvd (two_pow_dvd_size (not_le.1 hlevel)))

/-- A sibling that reaches past the size is a frontier block or, where the size has no bit, the
block right of it. -/
lemma siblingAt_of_past (hreach : p.size < (p.siblingAt level).stop) :
    p.siblingAt level
      = if p.size.testBit level then block p level else (block p level).sibling := by
  obtain ⟨place, hplace⟩ : ∃ place, place = p.leaf / 2 ^ level := ⟨_, rfl⟩
  have hsibling : p.siblingAt level
      = ⟨level, if place % 2 = 0 then place + 1 else place - 1⟩ := by
    rw [hplace]
    rfl
  have hle : place ≤ p.size / 2 ^ level := hplace ▸ Nat.div_le_div_right p.leaf_lt_size.le
  rw [hsibling, Block.stop, ← Nat.div_lt_iff_lt_mul (Nat.two_pow_pos _)] at hreach
  rw [hsibling]
  -- the leaf lies left of the frontier, or within the frontier block
  cases hbit : p.size.testBit level with
  | true =>
    obtain ⟨j, hj⟩ := Plan.exists_odd_of_testBit hbit
    rw [if_pos rfl, block, Block.holding, Block.mk.injEq]
    dsimp only at hreach
    split_ifs at hreach ⊢ <;> omega
  | false =>
    have heven := Block.div_two_pow_of_clear hbit
    rw [if_neg Bool.false_ne_true, block, Block.holding, Block.sibling, Block.mk.injEq]
    dsimp only at hreach ⊢
    split_ifs at hreach ⊢ <;> omega

/-- The digest of a sibling that reaches past the size. -/
def pastDigest (h : Hash) (p : Plan) (found : Found) (level : Nat) : Bytes :=
  if p.size.testBit level then digest h p found level else zeroDigest

/-- Once the frontier is rebuilt, all siblings that reach past the size are known. -/
lemma Climbed.getElem?_siblingAt (hknown : Climbed h p found p.levels known)
    (hlevel : level < p.levels) (hreach : p.size < (p.siblingAt level).stop) :
    known[(p.siblingAt level).address]? = some (pastDigest h p found level) := by
  have hbase := base_le_of_past hreach
  rw [siblingAt_of_past hreach, pastDigest]
  cases hbit : p.size.testBit level with
  | true => exact hknown.node level hbase hlevel.le
  | false => exact hknown.beside level hbase hlevel hbit

/-! ## The frontier of a log -/

/-- What was found is, for every block that a plan asks for, its digest. -/
def Answers (h : Hash) (leaves : List Bytes) (p : Plan) (found : Found) : Prop :=
  ∀ b : Block, b.address ∈ p.query → b.stop ≤ p.size → found b.address = some (b.digest h leaves)

/-- One step up the frontier. -/
lemma digest_block_succ (hsize : leaves.length = p.size) (hlevel : base p ≤ level) :
    (block p (level + 1)).digest h leaves =
      if p.size.testBit level then
        h.pair ((block p level).sibling.digest h leaves) ((block p level).digest h leaves)
      else h.pair ((block p level).digest h leaves) zeroDigest := by
  have hstart : (block p (level + 1)).start < leaves.length := by
    rw [hsize]
    exact start_block_lt (Nat.lt_succ_of_le hlevel)
  cases hbit : p.size.testBit level with
  | true =>
    obtain ⟨j, hj⟩ := block_of_set hbit
    rw [block_succ, hj, Block.parent_right] at hstart ⊢
    rw [Block.digest_parent hstart, Block.sibling_right, if_pos rfl]
  | false =>
    obtain ⟨j, hj⟩ := block_of_clear hbit
    have hempty := size_lt_start_sibling hbit
    rw [hj, Block.sibling_left, ← hsize] at hempty
    rw [block_succ, hj, Block.parent_left] at hstart ⊢
    rw [Block.digest_parent hstart, Block.digest_of_length_le hempty.le,
      if_neg Bool.false_ne_true]

/-- From the digests of the partials, those of the frontier blocks are rebuilt. -/
lemma digest_eq (hsize : leaves.length = p.size) (hbalanced : p.balanced = false)
    (hfound : Answers h leaves p found) (level : Nat) :
    digest h p found level = (block p level).digest h leaves := by
  induction level with
  | zero => rw [digest, digest_block_of_le hsize (Nat.zero_le _)]
  | succ level ih =>
    rw [digest]
    split
    case isTrue hlow => rw [digest_block_of_le hsize hlow]
    case isFalse hhigh =>
      rw [digest_block_succ hsize (not_lt.1 hhigh), ih]
      cases hbit : p.size.testBit level with
      | true =>
        have hpartial : found (p.partialAt level)
            = some ((block p level).sibling.digest h leaves) := by
          have hmem := Plan.partialAt_mem_query hbalanced hbit
          rw [Plan.partialAt_eq hbit] at hmem ⊢
          exact hfound _ hmem (Plan.stop_partial_le hbit)
        rw [if_pos rfl, if_pos rfl, hpartial, Option.getD_some]
      | false => rfl

/-- Above all levels stands the root. -/
lemma digest_levels (hsize : leaves.length = p.size) (hbalanced : p.balanced = false)
    (hfound : Answers h leaves p found) :
    digest h p found p.levels = (Tree.ofLeaves leaves).digest h := by
  have hdepth : p.levels = Tree.depthFor leaves.length := by
    rw [hsize, ← p.depth_eq, Plan.depth, hbalanced, if_neg Bool.false_ne_true]
  rw [digest_eq hsize hbalanced hfound, block, Block.holding_of_lt p.size_lt_two_pow_levels,
    Block.ofLeaves_eq_tree, ← hdepth, Block.digest]

/-- What is rebuilt past the size are the digests of the siblings there. -/
lemma pastDigest_eq (hsize : leaves.length = p.size) (hbalanced : p.balanced = false)
    (hfound : Answers h leaves p found) (hreach : p.size < (p.siblingAt level).stop) :
    pastDigest h p found level = (p.siblingAt level).digest h leaves := by
  rw [pastDigest, siblingAt_of_past hreach]
  cases hbit : p.size.testBit level with
  | true => rw [if_pos rfl, if_pos rfl, digest_eq hsize hbalanced hfound]
  | false =>
    rw [if_neg Bool.false_ne_true, if_neg Bool.false_ne_true]
    exact (Block.digest_of_length_le (hsize.trans_le (size_lt_start_sibling hbit).le)).symm

end Frontier

end MerkleLog

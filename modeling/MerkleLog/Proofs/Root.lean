import MerkleLog.Proofs.Slots

/-!
# Roots of accumulators

The root that an accumulator gives is that of the smallest tree with all leaves appended so far.
From the lowest taken slot upward, the tree that the partials span covers at every level the block
that the last leaf lies in, filled up with empty positions; where the size has no bit, that block
is only widened, and where it has one, the partial joins it from the left.
-/

namespace MerkleLog

namespace Tree

variable {h : Hash}

lemma widen_succ (lag : Nat) (t : Tree) :
    widen (lag + 1) t = internal (widen lag t) (empty (widen lag t).capacity) := by
  induction lag generalizing t with
  | zero => rfl
  | succ lag ih => rw [widen, ih, widen]

lemma digest_complete (level : Nat) (d : Bytes) : (complete level d).digest h = d := by
  unfold complete
  split <;> rfl

/-! ## Folding one slot -/

lemma ofPartialsFrom_first (level : Nat) {d : Bytes} (hd : d ≠ zeroDigest)
    (rest : List (Option Bytes)) :
    ofPartialsFrom level none (some d :: rest)
      = ofPartialsFrom (level + 1) (some (complete level d, 1)) rest := by
  have hfilter : (some d).filter (· ≠ zeroDigest) = some d := by simp [Option.filter, hd]
  rw [ofPartialsFrom.eq_def]
  simp only [hfilter]

lemma ofPartialsFrom_join (level lag : Nat) (t : Tree) {d : Bytes} (hd : d ≠ zeroDigest)
    (rest : List (Option Bytes)) :
    ofPartialsFrom level (some (t, lag)) (some d :: rest)
      = ofPartialsFrom (level + 1) (some (internal (complete level d) (widen lag t), 0)) rest := by
  have hfilter : (some d).filter (· ≠ zeroDigest) = some d := by simp [Option.filter, hd]
  rw [ofPartialsFrom.eq_def]
  simp only [hfilter]

end Tree

namespace Accumulator

variable {h : Hash} {leaves : List Bytes} {level count n : Nat} {slots : List (Option Bytes)}

/-- The fold of the partials onto a tree over the block that the last leaf lies in. -/
lemma digest_ofPartialsFrom_some (hslots : Holds h leaves level count slots) (hcount : 0 < count)
    (hzero : some zeroDigest ∉ slots) (hstart : Block.start ⟨level, count⟩ < leaves.length)
    (hstop : leaves.length ≤ Block.stop ⟨level, count⟩) {t : Tree} {lag : Nat}
    (ht : (Tree.widen lag t).digest h = Block.digest h leaves ⟨level, count⟩) :
    ∃ t', Tree.ofPartialsFrom level (some (t, lag)) slots = some t' ∧
      t'.digest h = (Tree.ofLeaves leaves).digest h := by
  induction hslots generalizing t lag with
  | nil => omega
  | @free level count rest hpos hrest ih =>
    -- the right half of the parent is empty, as is the tree that widening adds
    have hright : leaves.length ≤ Block.start ⟨level, 2 * count + 1⟩ := hstop
    have hstop' := hright.trans (Block.start_lt_stop ⟨level, 2 * count + 1⟩).le
    rw [Block.start_left] at hstart
    rw [Block.stop_right] at hstop'
    have ht' : (Tree.widen (lag + 1) t).digest h = Block.digest h leaves ⟨level + 1, count⟩ := by
      rw [Tree.widen_succ, Tree.digest, ht, Block.digest_parent hstart,
        Block.digest_of_length_le hright, Tree.digest]
    exact ih hpos (List.not_mem_of_not_mem_cons hzero) hstart hstop' ht'
  | @taken level count rest hrest ih =>
    rw [List.mem_cons, not_or] at hzero
    have hd : Block.digest h leaves ⟨level, 2 * count⟩ ≠ zeroDigest :=
      fun heq => hzero.1 (congrArg some heq.symm)
    have hstart' : Block.start ⟨level + 1, count⟩ < leaves.length := by
      rw [Block.start_right] at hstart
      exact (Nat.le_add_right _ _).trans_lt hstart
    have hjoined : (Tree.internal (Tree.complete level (Block.digest h leaves ⟨level, 2 * count⟩))
        (Tree.widen lag t)).digest h = Block.digest h leaves ⟨level + 1, count⟩ := by
      rw [Tree.digest, Tree.digest_complete, ht, Block.digest_parent hstart']
    rw [Tree.ofPartialsFrom_join level lag t hd]
    rw [Block.stop_right] at hstop
    rcases Nat.eq_zero_or_pos count with rfl | hpos
    · -- the highest partial is joined, so that the tree covers all leaves
      rw [hrest.eq_nil]
      refine ⟨_, rfl, ?_⟩
      rw [hjoined, Block.digest_ofLeaves]
      · rw [Block.start_right, Block.start_zero] at hstart
        rw [Nat.pow_succ]
        omega
      · simpa [Block.stop] using hstop
    · exact ih hpos hzero.2 hstart' hstop hjoined

/-- The tree that the partials span has the digest of the smallest tree with all leaves. -/
lemma digest_ofPartialsFrom_none (hslots : Holds h leaves level count slots) (hcount : 0 < count)
    (hzero : some zeroDigest ∉ slots) (hlength : leaves.length = Block.start ⟨level, count⟩) :
    ∃ t, Tree.ofPartialsFrom level none slots = some t ∧
      t.digest h = (Tree.ofLeaves leaves).digest h := by
  induction hslots with
  | nil => omega
  | @free level count rest hpos hrest ih =>
    rw [Block.start_left] at hlength
    exact ih hpos (List.not_mem_of_not_mem_cons hzero) hlength
  | @taken level count rest hrest ih =>
    rw [List.mem_cons, not_or] at hzero
    have hd : Block.digest h leaves ⟨level, 2 * count⟩ ≠ zeroDigest :=
      fun heq => hzero.1 (congrArg some heq.symm)
    have hpow := Nat.two_pow_pos level
    have hlength' := hlength
    rw [Block.start_right] at hlength'
    rw [Tree.ofPartialsFrom_first level hd]
    rcases Nat.eq_zero_or_pos count with rfl | hpos
    · -- a single partial covers all leaves
      rw [Block.start_zero, Nat.zero_add] at hlength'
      rw [hrest.eq_nil]
      refine ⟨_, rfl, ?_⟩
      rw [Tree.digest_complete, Block.digest_ofLeaves (by omega) hlength'.le]
    · have hstart : Block.start ⟨level + 1, count⟩ < leaves.length := by omega
      have hstop : leaves.length ≤ Block.stop ⟨level + 1, count⟩ := by
        rw [hlength, ← Block.stop_right]
        exact (Block.start_lt_stop _).le
      refine digest_ofPartialsFrom_some hrest hpos hzero.2 hstart hstop ?_
      rw [Tree.widen, Tree.widen, Tree.digest, Tree.digest_complete, Block.digest_parent hstart,
        Block.digest_of_length_le hlength.le, Tree.digest]

lemma exists_root {a : Accumulator} (hsize : 0 < a.size) : ∃ root, a.root h = .ok root := by
  rw [root, if_neg hsize.ne']
  split
  · split <;> exact ⟨_, rfl⟩
  · exact ⟨_, rfl⟩

/-- The root over all leaves, on the path of a single partial as on that of a tree. -/
lemma root_of_holds {a : Accumulator} (hslots : Holds h leaves 0 leaves.length a.slots)
    (hne : leaves ≠ []) (hzero : some zeroDigest ∉ a.slots) :
    a.root h = .ok ((Tree.ofLeaves leaves).digest h) ∧
      (Tree.ofPartials a.slots).digest h = (Tree.ofLeaves leaves).digest h := by
  have hpos : 0 < leaves.length := List.length_pos_iff.2 hne
  have hsize : a.size = leaves.length := hslots.sizeOfSlots_eq
  obtain ⟨t, ht, hdigest⟩ := digest_ofPartialsFrom_none hslots hpos hzero (Block.start_leaf _).symm
  have htree : (Tree.ofPartials a.slots).digest h = (Tree.ofLeaves leaves).digest h := by
    rw [Tree.ofPartials, ht, Option.getD_some, hdigest]
  refine ⟨?_, htree⟩
  -- a size that is a power of two has one partial, that of the whole tree
  obtain ⟨front, hfront⟩ := hslots.exists_top hpos
  rw [root, hsize, if_neg hpos.ne', hfront, List.getLast?_concat, ← hfront, htree]
  dsimp only
  split
  case isFalse => rfl
  case isTrue hpow =>
    rw [hfront, List.length_append, List.length_singleton, Nat.add_sub_cancel] at hpow
    have := Nat.two_pow_pos front.length
    rw [Nat.zero_add, Block.digest_ofLeaves (by omega) hpow.le]

end Accumulator

/-! ## Roots are digests -/

namespace Tree

variable {h : Hash} {partials : List (Option Bytes)}

lemma isDigest_internal (l r : Tree) : isDigest ((internal l r).digest h) = true :=
  isDigest_iff.2 (h.length_pair _ _)

lemma isDigest_complete {d : Bytes} (hd : isDigest d = true) (level : Nat) :
    isDigest ((complete level d).digest h) = true := by
  rw [complete]
  split
  · exact hd
  · exact hd

lemma isDigest_ofPartialsFrom (hpartials : ∀ d, some d ∈ partials → isDigest d = true) {level : Nat}
    {built : Option (Tree × Nat)}
    (hbuilt : ∀ t lag, built = some (t, lag) → isDigest (t.digest h) = true) {t : Tree}
    (ht : ofPartialsFrom level built partials = some t) : isDigest (t.digest h) = true := by
  induction partials generalizing level built with
  | nil =>
    obtain ⟨⟨t', lag⟩, hsome, rfl⟩ := Option.map_eq_some_iff.1 ht
    exact hbuilt t' lag hsome
  | cons p partials ih =>
    have hrest : ∀ d, some d ∈ partials → isDigest d = true := fun d hd =>
      hpartials d (List.mem_cons_of_mem _ hd)
    rw [ofPartialsFrom.eq_def] at ht
    dsimp only at ht
    split at ht
    · refine ih hrest (fun t' lag hsome => ?_) ht
      obtain ⟨⟨t'', lag'⟩, hsome', heq⟩ := Option.map_eq_some_iff.1 hsome
      obtain ⟨rfl, -⟩ := Prod.mk.inj heq
      exact hbuilt _ _ hsome'
    · rename_i d hfilter
      refine ih hrest (fun t' lag hsome => ?_) ht
      obtain ⟨rfl, -⟩ := Prod.mk.inj (Option.some.inj hsome)
      have hmem : p = some d := (Option.filter_eq_some_iff.1 hfilter).1
      exact isDigest_complete (hpartials d (by rw [hmem]; exact List.mem_cons_self)) level
    · refine ih hrest (fun t' lag hsome => ?_) ht
      obtain ⟨rfl, -⟩ := Prod.mk.inj (Option.some.inj hsome)
      exact isDigest_internal _ _

lemma isDigest_ofPartials (hpartials : ∀ d, some d ∈ partials → isDigest d = true) :
    isDigest ((ofPartials partials).digest h) = true := by
  rw [ofPartials]
  cases htree : ofPartialsFrom 0 none partials with
  | none => exact isDigest_iff.2 length_zeroDigest
  | some t => exact isDigest_ofPartialsFrom hpartials (fun t lag hsome => by cases hsome) htree

end Tree

lemma Accumulator.isDigest_root {h : Hash} {a : Accumulator} {root : Bytes}
    (hslots : ∀ d, some d ∈ a.slots → isDigest d = true) (hroot : a.root h = .ok root) :
    isDigest root = true := by
  have htree := Tree.isDigest_ofPartials (h := h) hslots
  rw [Accumulator.root] at hroot
  split at hroot
  · cases hroot
  · split at hroot
    · rename_i top hlast
      split at hroot
      · obtain rfl := Except.ok.inj hroot
        exact hslots top (List.mem_of_getLast? hlast)
      · obtain rfl := Except.ok.inj hroot
        exact htree
    · obtain rfl := Except.ok.inj hroot
      exact htree

end MerkleLog

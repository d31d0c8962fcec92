import MerkleLog.Proofs.Completeness
import MerkleLog.Proofs.Snapshot

/-!
# The proof of the next leaf

The proof of a leaf that is still to be appended can be told from the accumulator: on the left of
the leaf lie the partials, and on its right lies nothing.  The climb beside them does what the
append does.  As long as slots are taken it joins the digests that the carry joins.  From the first
free slot on it goes along the tree that the partials after the append span, which is widened where
a slot is free and joined from the left where one is taken.
-/

namespace MerkleLog

lemma lt_two_pow_bitLength (n : Nat) : n < 2 ^ bitLength n := by
  rw [bitLength]
  split
  · omega
  · exact Nat.lt_log2_self

lemma two_pow_bitLength_lt (n : Nat) : 2 ^ bitLength n < 2 * (n + 1) := by
  rw [bitLength]
  split
  · omega
  · rename_i hne
    have hlow := Nat.log2_self_le hne
    rw [Nat.pow_succ]
    omega

namespace Accumulator

variable {h : Hash} {leaves : List Bytes} {slots : List (Option Bytes)} {a b : Accumulator}
  {d p leaf : Bytes} {level count lag : Nat} {t : Tree}

/-- The digests beside the way up from the next leaf, lowest first: the partials, and the zero
digest where a slot is free. -/
def siblings (slots : List (Option Bytes)) : List Bytes :=
  slots.map fun slot => slot.getD zeroDigest

@[simp] lemma length_siblings (slots : List (Option Bytes)) :
    (siblings slots).length = slots.length :=
  List.length_map _

/-! ## One step of the climb -/

lemma climb_free (slots : List (Option Bytes)) (d : Bytes) :
    Proof.climb h (sizeOfSlots (none :: slots)) d (siblings (none :: slots))
      = Proof.climb h (sizeOfSlots slots) (h.pair d zeroDigest) (siblings slots) := by
  have hhalf : 2 * sizeOfSlots slots / 2 = sizeOfSlots slots := by omega
  simp [siblings, sizeOfSlots, Proof.climb_cons, Proof.pairAt, isDigest_iff, hhalf]

lemma climb_joined (slots : List (Option Bytes)) (hp : isDigest p = true) (d : Bytes) :
    Proof.climb h (sizeOfSlots (some p :: slots)) d (siblings (some p :: slots))
      = Proof.climb h (sizeOfSlots slots) (h.pair p d) (siblings slots) := by
  have hhalf : (2 * sizeOfSlots slots + 1) / 2 = sizeOfSlots slots := by omega
  simp [siblings, sizeOfSlots, Proof.climb_cons, Proof.pairAt, hp, hhalf]

/-! ## The climb to the root -/

/-- Above the slot where the carry settles, the climb goes along the tree that the partials span. -/
lemma climb_ofPartialsFrom (htop : slots.getLast? ≠ some none)
    (hdigests : ∀ q, some q ∈ slots → isDigest q = true) (hzero : some zeroDigest ∉ slots)
    (hlag : slots = [] → lag = 0) (ht : (Tree.widen lag t).digest h = d) :
    ∃ t', Tree.ofPartialsFrom level (some (t, lag)) slots = some t' ∧
      Proof.climb h (sizeOfSlots slots) d (siblings slots) = some (t'.digest h) := by
  induction slots generalizing level lag t d with
  | nil =>
    obtain rfl := hlag rfl
    exact ⟨t, rfl, congrArg some ht.symm⟩
  | cons slot slots ih =>
    have htop' := getLast?_of_cons htop
    have hdigests' : ∀ q, some q ∈ slots → isDigest q = true :=
      fun q hq => hdigests q (List.mem_cons_of_mem _ hq)
    have hzero' := List.not_mem_of_not_mem_cons hzero
    cases slot with
    | none =>
      rw [climb_free]
      refine ih htop' hdigests' hzero' ?_ ?_
      · -- the highest slot is taken, so that others follow a free one
        rintro rfl
        exact absurd rfl htop
      · rw [Tree.widen_succ, Tree.digest, ht, Tree.digest]
    | some p =>
      have hp : p ≠ zeroDigest := by
        rintro rfl
        exact hzero List.mem_cons_self
      rw [climb_joined slots (hdigests p List.mem_cons_self),
        Tree.ofPartialsFrom_join level lag t hp]
      refine ih htop' hdigests' hzero' (fun _ => rfl) ?_
      rw [Tree.widen, Tree.digest, Tree.digest_complete, ht]

/-- Up to the slot where the carry settles, the climb joins what the carry joins. -/
lemma climb_carry (level : Nat) (htop : slots.getLast? ≠ some none)
    (hdigests : ∀ q, some q ∈ slots → isDigest q = true)
    (hzero : some zeroDigest ∉ (carry h slots d).1) :
    ∃ t, Tree.ofPartialsFrom level none (carry h slots d).1 = some t ∧
      Proof.climb h (sizeOfSlots slots) d (siblings slots) = some (t.digest h) := by
  induction slots generalizing level d with
  | nil =>
    have hd : d ≠ zeroDigest := by
      rintro rfl
      exact hzero List.mem_cons_self
    refine ⟨Tree.complete level d, Tree.ofPartialsFrom_first level hd [], ?_⟩
    rw [Tree.digest_complete]
    rfl
  | cons slot slots ih =>
    have htop' := getLast?_of_cons htop
    have hdigests' : ∀ q, some q ∈ slots → isDigest q = true :=
      fun q hq => hdigests q (List.mem_cons_of_mem _ hq)
    cases slot with
    | none =>
      have hcarry : (carry h (none :: slots) d).1 = some d :: slots := rfl
      rw [hcarry] at hzero ⊢
      have hd : d ≠ zeroDigest := by
        rintro rfl
        exact hzero List.mem_cons_self
      rw [climb_free, Tree.ofPartialsFrom_first level hd]
      refine climb_ofPartialsFrom htop' hdigests' (List.not_mem_of_not_mem_cons hzero) ?_ ?_
      · rintro rfl
        exact absurd rfl htop
      · rw [Tree.widen, Tree.widen, Tree.digest, Tree.digest_complete, Tree.digest]
    | some older =>
      rw [carry_taken] at hzero ⊢
      rw [climb_joined slots (hdigests older List.mem_cons_self)]
      exact ih (level + 1) htop' hdigests' (List.not_mem_of_not_mem_cons hzero)

/-- The climb from the next leaf ends in the root after the append. -/
lemma climb_root (ha : Register.Held a) (hleaf : isDigest leaf = true) (hroom : a.size < maxWord)
    (hzero : some zeroDigest ∉ (carry h a.slots leaf).1) :
    ∃ root, Accumulator.root h ⟨(carry h a.slots leaf).1⟩ = .ok root ∧ isDigest root = true ∧
      Proof.climb h a.size leaf (siblings a.slots) = some root := by
  have hnext : Register.Held ⟨(carry h a.slots leaf).1⟩ := ha.append (append_eq hleaf hroom)
  have hsize := sizeOfSlots_carry (h := h) a.slots leaf
  obtain ⟨t, ht, hclimb⟩ := climb_carry 0 ha.top ha.digests hzero
  have hlast : (carry h a.slots leaf).1.getLast? ≠ some (some zeroDigest) :=
    fun hlast => hzero (List.mem_of_getLast? hlast)
  rcases eq_nil_or_exists_top hnext hlast with hnil | ⟨front, top, hslots, htop⟩
  · -- a log that has just taken a leaf is not empty
    rw [show (carry h a.slots leaf).1 = [] from hnil] at hsize
    exact absurd hsize (Nat.succ_ne_zero _).symm
  · have hroot := root_eq_ofPartials (h := h) htop hslots
    have htree : Tree.ofPartials (carry h a.slots leaf).1 = t := by
      rw [Tree.ofPartials, ht, Option.getD_some]
    refine ⟨_, hroot, isDigest_root hnext.digests hroot, ?_⟩
    rw [htree]
    exact hclimb

/-! ## The path of the next leaf -/

/-- Beside the way up from the next leaf lie the blocks left over on its left, and nothing on its
right. -/
lemma Holds.siblings_eq (hslots : Holds h leaves level count slots)
    (hstop : leaves.length ≤ Block.stop ⟨level, count⟩) :
    siblings slots = (List.range slots.length).map fun k =>
      (Block.sibling ⟨level + k, count / 2 ^ k⟩).digest h leaves := by
  have hshift : ∀ level n k : Nat, (⟨level + (k + 1), n / 2 ^ (k + 1)⟩ : Block)
      = ⟨level + 1 + k, n / 2 / 2 ^ k⟩ := by
    intro level n k
    rw [Nat.pow_succ', Nat.div_div_eq_div_mul, Nat.add_assoc, Nat.add_comm 1 k]
  induction hslots with
  | nil => rfl
  | @free level count rest _ hrest ih =>
    have hright : leaves.length ≤ Block.start ⟨level, 2 * count + 1⟩ := hstop
    have hhalf : 2 * count / 2 = count := by omega
    have hrest' := ih ((hright.trans (Block.start_lt_stop _).le).trans (Block.stop_right _ _).le)
    rw [List.length_cons, List.range_succ_eq_map, List.map_cons, List.map_map, siblings,
      List.map_cons, Nat.add_zero, Nat.pow_zero, Nat.div_one, Block.sibling_left,
      Block.digest_of_length_le hright]
    refine congrArg (zeroDigest :: ·) (hrest'.trans (List.map_congr_left fun k _ => ?_))
    rw [Function.comp_apply, Nat.succ_eq_add_one, hshift, hhalf]
  | @taken level count rest hrest ih =>
    have hhalf : (2 * count + 1) / 2 = count := by omega
    have hrest' := ih (hstop.trans (Block.stop_right _ _).le)
    rw [List.length_cons, List.range_succ_eq_map, List.map_cons, List.map_map, siblings,
      List.map_cons, Nat.add_zero, Nat.pow_zero, Nat.div_one, Block.sibling_right,
      Option.getD_some]
    refine congrArg (_ :: ·) (hrest'.trans (List.map_congr_left fun k _ => ?_))
    rw [Function.comp_apply, Nat.succ_eq_add_one, hshift, hhalf]

/-- The partials of a log are the path of its next leaf. -/
lemma siblings_eq_path (hslots : Holds h (leaves ++ [leaf]) 0 leaves.length slots) :
    siblings slots = Block.path h (leaves ++ [leaf]) leaves.length
      (Tree.depthFor (leaves ++ [leaf]).length) := by
  have hlength : (leaves ++ [leaf]).length = leaves.length + 1 := by simp
  have hdepth : Tree.depthFor (leaves ++ [leaf]).length = slots.length := by
    rw [length_eq_bitLength hslots.getLast?_ne, hslots.sizeOfSlots_eq, hlength]
    exact Tree.depthFor_eq (two_pow_bitLength_lt _) (lt_two_pow_bitLength _)
  rw [hdepth, hslots.siblings_eq (by simp [Block.stop]), Block.path]
  simp only [Nat.zero_add, Block.holding]

/-! ## Runs of appends -/

/-- What is appended in a run are digests, each of which is counted. -/
lemma of_appendAll_eq_ok (hrun : a.appendAll h leaves = .ok b) :
    (∀ d ∈ leaves, isDigest d = true) ∧ b.size = a.size + leaves.length := by
  induction leaves generalizing a with
  | nil =>
    obtain rfl := Except.ok.inj hrun
    exact ⟨nofun, rfl⟩
  | cons leaf leaves ih =>
    obtain ⟨next, events, hstep, hrest⟩ := appendAll_cons_eq_ok.1 hrun
    obtain ⟨hleaf, -, hsize⟩ := of_append_eq_ok hstep
    obtain ⟨hleaves, hcount⟩ := ih hrest
    refine ⟨List.forall_mem_cons.2 ⟨hleaf, hleaves⟩, ?_⟩
    rw [hcount, hsize, List.length_cons, Nat.add_right_comm, Nat.add_assoc]

/-- What appends lead to is reached. -/
lemma reached_of_appendAll (ha : Register.Reached h a.register)
    (hrun : a.appendAll h leaves = .ok b) : Register.Reached h b.register := by
  induction leaves generalizing a with
  | nil =>
    obtain rfl := Except.ok.inj hrun
    exact ha
  | cons leaf leaves ih =>
    obtain ⟨next, events, hstep, hrest⟩ := appendAll_cons_eq_ok.1 hrun
    have hannounce := ha.announce leaf
    rw [Register.announce_register, hstep] at hannounce
    exact ih hannounce hrest

/-- After a run from none on and one append more, the slots hold the complete blocks before as
after. -/
lemma holds_of_appendAll (hrun : empty.appendAll h leaves = .ok a) (hleaf : isDigest leaf = true)
    (hroom : a.size < maxWord) :
    Holds h (leaves ++ [leaf]) 0 leaves.length a.slots ∧
      Holds h (leaves ++ [leaf]) 0 (leaves ++ [leaf]).length (carry h a.slots leaf).1 := by
  obtain ⟨hleaves, hsize⟩ := of_appendAll_eq_ok hrun
  have hempty : empty.size = 0 := rfl
  rw [hempty, Nat.zero_add] at hsize
  have hlength : (leaves ++ [leaf]).length = leaves.length + 1 := by simp
  have hall : ∀ d ∈ leaves ++ [leaf], isDigest d = true := by
    intro d hd
    rcases List.mem_append.1 hd with hd | hd
    · exact hleaves d hd
    · rwa [List.mem_singleton.1 hd]
  obtain ⟨a', hrun', hslots⟩ := appendAll_take (h := h) (n := leaves.length) hall (by omega)
    (by omega)
  rw [List.take_left] at hrun'
  obtain rfl := Except.ok.inj (hrun.symm.trans hrun')
  have hstop : Block.stop ⟨0, leaves.length⟩ ≤ (leaves ++ [leaf]).length := by
    simp [Block.stop]
  have hnext := hslots.carry hstop
  rw [Block.digest_leaf (by omega), List.getElem_concat_length rfl, ← hlength] at hnext
  exact ⟨hslots, hnext⟩

end Accumulator

lemma Register.Reached.held_register {h : Hash} {a : Accumulator} (ha : Reached h a.register) :
    Held a := by
  obtain ⟨b, hb, heq⟩ := ha.held
  have hslots : a.slots = b.slots := congrArg Register.slots heq
  obtain rfl : a = b := congrArg Accumulator.mk hslots
  exact hb

namespace Ledger

variable {h : Hash} {leaves : List Bytes} {l last : Ledger}

lemma isDigest_of_appendAll (hrun : l.appendAll h leaves = .ok last) :
    ∀ d ∈ leaves, isDigest d = true := by
  induction leaves generalizing l with
  | nil => exact nofun
  | cons leaf leaves ih =>
    rw [appendAll, List.foldlM_cons, bind_eq_ok] at hrun
    obtain ⟨next, hstep, hrest⟩ := hrun
    rw [append, bind_eq_ok] at hstep
    obtain ⟨⟨a, events⟩, happend, -⟩ := hstep
    obtain ⟨hleaf, -, -⟩ := Accumulator.of_append_eq_ok happend
    exact List.forall_mem_cons.2 ⟨hleaf, ih hrest⟩

/-- A fresh ledger that took some leaves has recorded them. -/
lemma records_of_appendAll {recordsHeads : Bool}
    (hrun : (empty recordsHeads).appendAll h leaves = .ok l) :
    (∀ d ∈ leaves, isDigest d = true) ∧ leaves.length ≤ maxWord ∧
      Records h leaves leaves.length l := by
  have hleaves := isDigest_of_appendAll hrun
  have hmax := length_le_of_appendAll hleaves hrun
  obtain ⟨l', hrun', hrecords, -⟩ := appendAll_records (h := h) recordsHeads hleaves hmax
  obtain rfl := Except.ok.inj (hrun.symm.trans hrun')
  exact ⟨hleaves, hmax, hrecords⟩

end Ledger

namespace Proof

variable {h : Hash} {a : Accumulator} {leaf : Bytes}

/-- The proof of the next leaf is accepted under the root after its append.  If all leaves so far
were appended, it has the path of the new leaf in the smallest tree with all of them, and is the
proof that a log with these leaves gives, whatever comes after them. -/
theorem ofNextAppend_of_reached (ha : Register.Reached h a.register) (hroom : a.size < 2 ^ 64 - 1)
    (hleaf : leaf.length = 32)
    (hzero : ∀ next events, a.append h leaf = .ok (next, events) → some zeroDigest ∉ next.slots) :
    ∃ next events p, a.append h leaf = .ok (next, events) ∧ ofNextAppend h a leaf = .ok p ∧
      p.verify h = true ∧ p.index = a.size ∧ p.leaf = leaf ∧ next.root h = .ok p.root ∧
      ∀ leaves, Accumulator.empty.appendAll h leaves = .ok a →
        (Tree.ofLeaves (leaves ++ [leaf])).prove h a.size = some p.hashes ∧
        ∀ (recordsHeads : Bool) (later : List Bytes) (l : Ledger),
          (Ledger.ofStore .empty recordsHeads >>= fun l =>
            l.appendAll h (leaves ++ leaf :: later)) = .ok l →
          build h a.size leaf p.root (a.size + 1) l.store.find = .ok p := by
  have hdigest : isDigest leaf = true := isDigest_iff.2 hleaf
  have hheld := ha.held_register
  have hstep := Accumulator.append_eq (h := h) hdigest hroom
  have hzero' := hzero _ _ hstep
  obtain ⟨root, hroot, hrootDigest, hclimb⟩ :=
    Accumulator.climb_root hheld hdigest hroom hzero'
  have hlt : a.size < 2 ^ (Accumulator.siblings a.slots).length := by
    rw [Accumulator.length_siblings]
    exact Accumulator.sizeOfSlots_lt_two_pow a.slots
  have hverify : verify h ⟨root, leaf, a.size, Accumulator.siblings a.slots⟩ = true :=
    verify_iff.2 ⟨hdigest, hrootDigest, a.size, rfl, hlt, hclimb⟩
  refine ⟨_, _, _, hstep, ?_, hverify, rfl, rfl, hroot, fun leaves hrun => ?_⟩
  · rw [ofNextAppend, hstep, ok_bind]
    dsimp only
    rw [hroot, ok_bind]
    rfl
  · obtain ⟨hslots, hnext⟩ := Accumulator.holds_of_appendAll hrun hdigest hroom
    have hsize : a.size = leaves.length := hslots.sizeOfSlots_eq
    have hlength : (leaves ++ [leaf]).length = leaves.length + 1 := by simp
    have hpath := Accumulator.siblings_eq_path hslots
    obtain ⟨hroot', -⟩ := Accumulator.root_of_holds hnext (by simp) hzero'
    obtain rfl := Except.ok.inj (hroot.symm.trans hroot')
    rw [hsize]
    refine ⟨?_, fun recordsHeads later l hledger => ?_⟩
    · rw [Block.prove_ofLeaves (by omega), hpath]
    · rw [Ledger.ofStore_empty, ok_bind] at hledger
      obtain ⟨hleaves, hmax, hrecords⟩ := Ledger.records_of_appendAll hledger
      have htake : (leaves ++ leaf :: later).take (leaves.length + 1) = leaves ++ [leaf] := by
        simp [List.take_append]
      have hbuild := hrecords.build_eq hleaves hmax (n := leaves.length + 1) (i := leaves.length)
        (by simp) (by omega)
      simpa [htake, hpath] using hbuild

/-- The log with the first two of three leaves. -/
def twoOfThree : Accumulator :=
  ⟨[none, some (Sha256.hash.pair (List.replicate digestSize 1) (List.replicate digestSize 2))]⟩

/-- The third leaf is proved before it is appended. -/
theorem ofNextAppend_of_reached_third :
    ∃ p l, Register.Reached Sha256.hash twoOfThree.register ∧
      ofNextAppend Sha256.hash twoOfThree (List.replicate 32 3) = .ok p ∧
      p.verify Sha256.hash = true ∧ p.index = 2 ∧
      (Ledger.ofStore .empty false >>= fun l => l.appendAll Sha256.hash Tree.threeLeaves) = .ok l ∧
      build Sha256.hash 2 (List.replicate 32 3) p.root 3 l.store.find = .ok p := by
  have hrun : Accumulator.empty.appendAll Sha256.hash (Tree.threeLeaves.take 2)
      = .ok twoOfThree := rfl
  have hreached : Register.Reached Sha256.hash twoOfThree.register :=
    Accumulator.reached_of_appendAll .empty hrun
  have hsize : twoOfThree.size = 2 := rfl
  have hroom : twoOfThree.size < 2 ^ 64 - 1 := by
    rw [hsize]
    omega
  have hzero : ∀ next events,
      twoOfThree.append Sha256.hash (List.replicate 32 3) = .ok (next, events) →
        some zeroDigest ∉ next.slots := by
    intro next events hstep
    have hnext : next.slots = Ledger.threePartials Sha256.hash :=
      congrArg (fun outcome => (Prod.fst outcome).slots) (Except.ok.inj hstep).symm
    rw [hnext]
    exact Ledger.zeroDigest_not_mem_threePartials
  obtain ⟨next, events, p, -, hp, hverify, hindex, -, -, hlog⟩ :=
    ofNextAppend_of_reached hreached hroom (by decide) hzero
  obtain ⟨-, hbuild⟩ := hlog (Tree.threeLeaves.take 2) hrun
  have hleaves : Tree.threeLeaves.take 2 ++ [List.replicate 32 3] = Tree.threeLeaves := by decide
  obtain ⟨l, hl, -, -⟩ := Ledger.appendAll_records (h := Sha256.hash) false
    Tree.isDigest_threeLeaves (by decide)
  have hledger : (Ledger.ofStore .empty false >>= fun l =>
      l.appendAll Sha256.hash Tree.threeLeaves) = .ok l := by
    rwa [Ledger.ofStore_empty, ok_bind]
  rw [hsize] at hindex hbuild
  refine ⟨p, l, hreached, hp, hverify, hindex, hledger, hbuild false [] l ?_⟩
  rwa [hleaves]

end Proof

end MerkleLog

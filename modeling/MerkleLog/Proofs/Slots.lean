import Mathlib.Data.Nat.Bits
import MerkleLog.Proofs.Accumulator
import MerkleLog.Proofs.Block

/-!
# What the slots of an accumulator hold

After `n` appends the slots hold the digests of the complete blocks that the first `n` leaves split
into, one for every bit of `n`.  Level by level: of `2 * c` complete blocks all are covered by `c`
blocks of the next level, and of `2 * c + 1` the last is left over and has its digest in the slot.
Carrying a digest keeps this up, and the parents that it forms are the blocks that the append
completes.
-/

namespace MerkleLog

namespace Accumulator

/-- The slots from a level upward hold what is left over of `count` complete blocks of the level,
of which the first are those of a list of leaves. -/
inductive Holds (h : Hash) (leaves : List Bytes) : Nat → Nat → List (Option Bytes) → Prop
  | nil (level : Nat) : Holds h leaves level 0 []
  | free {level count : Nat} {rest : List (Option Bytes)} (hcount : 0 < count)
      (hrest : Holds h leaves (level + 1) count rest) :
      Holds h leaves level (2 * count) (none :: rest)
  | taken {level count : Nat} {rest : List (Option Bytes)}
      (hrest : Holds h leaves (level + 1) count rest) :
      Holds h leaves level (2 * count + 1)
        (some (Block.digest h leaves ⟨level, 2 * count⟩) :: rest)

variable {h : Hash} {leaves : List Bytes} {level count n : Nat} {slots slots' : List (Option Bytes)}

namespace Holds

lemma sizeOfSlots_eq (hslots : Holds h leaves level count slots) : sizeOfSlots slots = count := by
  induction hslots with
  | nil => rfl
  | free _ _ ih => rw [sizeOfSlots, ih]
  | taken _ ih => rw [sizeOfSlots, ih]

lemma sizeAt_eq (hslots : Holds h leaves level count slots) :
    sizeAt level slots = Block.start ⟨level, count⟩ := by
  rw [sizeAt, hslots.sizeOfSlots_eq, Block.start]

lemma eq_nil (hslots : Holds h leaves level 0 slots) : slots = [] := by
  generalize hcount : 0 = count at hslots
  cases hslots with
  | nil => rfl
  | free => omega
  | taken => omega

/-- The number of blocks determines the slots. -/
lemma unique (hslots : Holds h leaves level count slots)
    (hslots' : Holds h leaves level count slots') : slots = slots' := by
  -- an even number leaves the slot free and an odd one takes it, so that the cases cannot mix
  induction hslots generalizing slots' with
  | nil => exact hslots'.eq_nil.symm
  | @free level count rest hcount _ ih =>
    generalize htwice : 2 * count = twice at hslots'
    cases hslots' with
    | nil => omega
    | @free _ count' _ _ hrest =>
      obtain rfl : count = count' := by omega
      rw [ih hrest]
    | taken => omega
  | @taken level count rest _ ih =>
    generalize htwice : 2 * count + 1 = twice at hslots'
    cases hslots' with
    | nil => omega
    | free => omega
    | @taken _ count' _ hrest =>
      obtain rfl : count = count' := by omega
      rw [ih hrest]

/-- A slot is taken for every one bit of the number of blocks. -/
lemma occupied_eq (hslots : Holds h leaves level count slots) :
    occupied slots = count.bits.count true := by
  induction hslots with
  | nil => rfl
  | free hcount _ ih =>
    rw [occupied_none, Nat.bit0_bits _ hcount.ne', List.count_cons_of_ne (by decide), ih]
  | taken _ ih => rw [occupied_some, Nat.bit1_bits, List.count_cons_self, ih]

/-- Only the leaves of complete blocks matter. -/
lemma take (hslots : Holds h leaves level count slots) (hn : Block.start ⟨level, count⟩ ≤ n) :
    Holds h (leaves.take n) level count slots := by
  induction hslots with
  | nil => exact Holds.nil _
  | @free level count rest hcount _ ih =>
    rw [Block.start_left] at hn
    exact Holds.free hcount (ih hn)
  | @taken level count rest _ ih =>
    have hstop : Block.stop ⟨level, 2 * count⟩ ≤ n := hn
    rw [Block.start_right] at hn
    rw [← Block.digest_take hstop]
    exact Holds.taken (ih ((Nat.le_add_right _ _).trans hn))

/-- What is in a slot is the digest of a complete block. -/
lemma exists_block (hslots : Holds h leaves level count slots) {d : Bytes} (hd : some d ∈ slots) :
    ∃ b : Block, b.stop ≤ Block.start ⟨level, count⟩ ∧ b.digest h leaves = d := by
  induction hslots with
  | nil => cases hd
  | @free level count rest _ _ ih =>
    rw [List.mem_cons, or_iff_right (Option.some_ne_none d)] at hd
    rw [Block.start_left]
    exact ih hd
  | @taken level count rest _ ih =>
    rcases List.mem_cons.1 hd with hd | hd
    · exact ⟨⟨level, 2 * count⟩, le_rfl, (Option.some.inj hd).symm⟩
    · obtain ⟨b, hstop, hb⟩ := ih hd
      rw [Block.start_right]
      exact ⟨b, hstop.trans (Nat.le_add_right _ _), hb⟩

/-- The highest slot holds the block that starts with the first leaf. -/
lemma exists_top (hslots : Holds h leaves level count slots) (hcount : 0 < count) :
    ∃ front, slots = front ++ [some (Block.digest h leaves ⟨level + front.length, 0⟩)] := by
  induction hslots with
  | nil => omega
  | @free level count rest hpos _ ih =>
    obtain ⟨front, hrest⟩ := ih hpos
    refine ⟨none :: front, ?_⟩
    rw [hrest, List.cons_append, List.length_cons, Nat.add_right_comm, Nat.add_assoc]
  | @taken level count rest hrest ih =>
    rcases Nat.eq_zero_or_pos count with rfl | hpos
    · exact ⟨[], by rw [hrest.eq_nil]; rfl⟩
    · obtain ⟨front, hfront⟩ := ih hpos
      refine ⟨some (Block.digest h leaves ⟨level, 2 * count⟩) :: front, ?_⟩
      rw [hfront, List.cons_append, List.length_cons, Nat.add_right_comm, Nat.add_assoc]

lemma getLast?_ne (hslots : Holds h leaves level count slots) : slots.getLast? ≠ some none := by
  rcases Nat.eq_zero_or_pos count with rfl | hcount
  · rw [hslots.eq_nil]
    exact nofun
  · obtain ⟨front, hfront⟩ := hslots.exists_top hcount
    rw [hfront, List.getLast?_concat]
    exact nofun

/-- Carrying the digest of the next block into the slots counts one block more. -/
lemma carry (hslots : Holds h leaves level count slots)
    (hstop : Block.stop ⟨level, count⟩ ≤ leaves.length) :
    Holds h leaves level (count + 1)
      (Accumulator.carry h slots (Block.digest h leaves ⟨level, count⟩)).1 := by
  induction hslots with
  | nil level => exact Holds.taken (Holds.nil _)
  | free _ hrest _ => exact Holds.taken hrest
  | @taken level count rest hrest ih =>
    -- the block carried is the right half of the next block of the level above
    rw [Block.stop_right] at hstop
    have hstart := (Block.start_lt_stop ⟨level + 1, count⟩).trans_le hstop
    rw [carry_taken, ← Block.digest_parent hstart]
    exact Holds.free (Nat.succ_pos count) (ih hstop)

end Holds

/-- The parents that carrying forms: one at every level up to the highest whose block the append
completes. -/
lemma carry_parents (hslots : Holds h leaves level count slots)
    (hstop : Block.stop ⟨level, count⟩ ≤ leaves.length) :
    ∃ rise, 2 ^ rise ∣ count + 1 ∧ ¬2 ^ (rise + 1) ∣ count + 1 ∧
      (carry h slots (Block.digest h leaves ⟨level, count⟩)).2 = (List.range rise).map fun k =>
        Block.digest h leaves ⟨level + 1 + k, (count + 1) / 2 ^ (k + 1) - 1⟩ := by
  induction hslots with
  | nil level => exact ⟨0, by simp, by simp, rfl⟩
  | @free level count rest _ _ _ => exact ⟨0, by simp, by omega, rfl⟩
  | @taken level count rest hrest ih =>
    rw [Block.stop_right] at hstop
    have hstart := (Block.start_lt_stop ⟨level + 1, count⟩).trans_le hstop
    have hdouble : 2 * count + 1 + 1 = 2 * (count + 1) := by omega
    obtain ⟨rise, hdvd, hndvd, hparents⟩ := ih hstop
    refine ⟨rise + 1, ?_, ?_, ?_⟩
    · rw [hdouble, Nat.pow_succ']
      exact Nat.mul_dvd_mul_left 2 hdvd
    · rw [hdouble, Nat.pow_succ']
      exact fun hdvd' => hndvd (Nat.dvd_of_mul_dvd_mul_left Nat.two_pos hdvd')
    · have hhead : (2 * count + 1 + 1) / 2 ^ (0 + 1) - 1 = count := by omega
      have htail : ∀ k, (2 * count + 1 + 1) / 2 ^ (k + 1 + 1) = (count + 1) / 2 ^ (k + 1) := by
        intro k
        rw [hdouble, Nat.pow_succ' (n := k + 1), Nat.mul_div_mul_left _ _ Nat.two_pos]
      rw [carry_taken, ← Block.digest_parent hstart, hparents, List.range_succ_eq_map,
        List.map_cons, List.map_map, hhead]
      refine congrArg (_ :: ·) (List.map_congr_left fun k _ => ?_)
      rw [Function.comp_apply, htail, Nat.succ_eq_add_one, Nat.add_assoc (level + 1),
        Nat.add_comm 1 k]

/-! ## Appending -/

/-- The announcement of a complete block of a log. -/
def eventOf (h : Hash) (leaves : List Bytes) (b : Block) : Event :=
  ⟨b.level, b.stop, b.digest h leaves⟩

@[simp] lemma address_eventOf (b : Block) : (eventOf h leaves b).address = b.address := rfl

/-- The blocks up to a level that stop at a size, lowest first. -/
def completed (rise size : Nat) : List Block :=
  (List.range (rise + 1)).map fun level => Block.endingAt level size

lemma eventsFrom_map_range (level size count : Nat) (digestOf : Nat → Bytes) :
    eventsFrom level size ((List.range count).map digestOf)
      = (List.range count).map fun k => ⟨(level + k : Nat), size, digestOf k⟩ := by
  induction count generalizing level digestOf with
  | zero => rfl
  | succ count ih =>
    rw [List.range_succ_eq_map, List.map_cons, List.map_map, List.map_cons, List.map_map,
      eventsFrom, ih]
    refine congrArg (_ :: ·) (List.map_congr_left fun k _ => ?_)
    simp [Nat.add_assoc, Nat.add_comm 1 k]

/-- The completed blocks are those that stop at the size. -/
lemma mem_completed {rise size : Nat} {b : Block} (hsize : 0 < size) (hdvd : 2 ^ rise ∣ size)
    (hndvd : ¬2 ^ (rise + 1) ∣ size) : b ∈ completed rise size ↔ b.stop = size := by
  simp only [completed, List.mem_map, List.mem_range]
  constructor
  · rintro ⟨level, hlevel, rfl⟩
    exact Block.stop_endingAt ((Nat.pow_dvd_pow 2 (Nat.le_of_lt_succ hlevel)).trans hdvd) hsize
  · rintro rfl
    refine ⟨b.level, ?_, b.eq_endingAt.symm⟩
    by_contra hlevel
    exact hndvd ((Nat.pow_dvd_pow 2 (not_lt.1 hlevel)).trans b.two_pow_dvd_stop)

/-- The events of the next leaf and of the parents that it forms are those of the completed
blocks. -/
lemma eventsFrom_completed {rise : Nat} {parents : List Bytes} (hn : n < leaves.length)
    (hdvd : 2 ^ rise ∣ n + 1)
    (hparents : parents = (List.range rise).map fun k =>
      Block.digest h leaves ⟨0 + 1 + k, (n + 1) / 2 ^ (k + 1) - 1⟩) :
    eventsFrom 0 (n + 1) (leaves[n] :: parents)
      = (completed rise (n + 1)).map (eventOf h leaves) := by
  have hdigests : leaves[n] :: parents
      = (List.range (rise + 1)).map fun k => (Block.endingAt k (n + 1)).digest h leaves := by
    have hhead : leaves[n] = (Block.endingAt 0 (n + 1)).digest h leaves := by
      rw [← Block.digest_leaf (h := h) hn]
      simp [Block.endingAt]
    rw [hparents, List.range_succ_eq_map, List.map_cons, List.map_map]
    refine congrArg₂ (· :: ·) hhead (List.map_congr_left fun k _ => ?_)
    simp [Block.endingAt, Nat.add_comm 1 k]
  rw [hdigests, eventsFrom_map_range, completed, List.map_map]
  refine List.map_congr_left fun k hk => ?_
  have hdvd' : 2 ^ k ∣ n + 1 :=
    (Nat.pow_dvd_pow 2 (Nat.le_of_lt_succ (List.mem_range.1 hk))).trans hdvd
  rw [Function.comp_apply, eventOf, Block.stop_endingAt hdvd' (Nat.succ_pos n), Nat.zero_add]
  rfl

/-- Appending the next leaf of a log announces the blocks that it completes. -/
lemma append_of_holds {a : Accumulator} (hslots : Holds h leaves 0 n a.slots)
    (hn : n < leaves.length) (hleaf : isDigest leaves[n]) (hmax : n < maxWord) :
    ∃ next rise, a.append h leaves[n]
        = .ok (next, (completed rise (n + 1)).map (eventOf h leaves)) ∧
      Holds h leaves 0 (n + 1) next.slots ∧ 2 ^ rise ∣ n + 1 ∧ ¬2 ^ (rise + 1) ∣ n + 1 := by
  have hstop : Block.stop ⟨0, n⟩ ≤ leaves.length := by simpa [Block.stop] using Nat.succ_le_of_lt hn
  have hsize : a.size = n := hslots.sizeOfSlots_eq
  have hnext := hslots.carry hstop
  obtain ⟨rise, hdvd, hndvd, hparents⟩ := carry_parents hslots hstop
  rw [Block.digest_leaf hn] at hnext hparents
  refine ⟨⟨(carry h a.slots leaves[n]).1⟩, rise, ?_, hnext, hdvd, hndvd⟩
  rw [append_eq hleaf (hsize.trans_lt hmax), hsize, eventsFrom_completed hn hdvd hparents]

/-- Append leaves in order. -/
def appendAll (h : Hash) (a : Accumulator) (leaves : List Bytes) : Except Error Accumulator :=
  leaves.foldlM (fun a leaf => (·.1) <$> a.append h leaf) a

lemma appendAll_cons_eq_ok {a last : Accumulator} {leaf : Bytes} :
    a.appendAll h (leaf :: leaves) = .ok last ↔
      ∃ next events, a.append h leaf = .ok (next, events) ∧ next.appendAll h leaves = .ok last := by
  rw [appendAll, List.foldlM_cons]
  cases a.append h leaf with
  | error cause => simp
  | ok result =>
    obtain ⟨next, events⟩ := result
    simp [appendAll]

/-- After any number of appends from the first, the slots hold the complete blocks. -/
lemma appendAll_take (hleaves : ∀ d ∈ leaves, isDigest d) (hmax : leaves.length ≤ maxWord)
    (hn : n ≤ leaves.length) :
    ∃ a, empty.appendAll h (leaves.take n) = .ok a ∧ Holds h leaves 0 n a.slots := by
  induction n with
  | zero => exact ⟨empty, rfl, Holds.nil 0⟩
  | succ n ih =>
    obtain ⟨a, hrun, hslots⟩ := ih (by omega)
    have hleaf := hleaves _ (List.getElem_mem hn)
    obtain ⟨next, rise, hnext, hslots', -, -⟩ := append_of_holds hslots hn hleaf (by omega)
    refine ⟨next, ?_, hslots'⟩
    rw [appendAll] at hrun ⊢
    rw [List.take_succ_eq_append_getElem hn, List.foldlM_append, hrun, ok_bind, List.foldlM_cons,
      hnext]
    rfl

end Accumulator

end MerkleLog

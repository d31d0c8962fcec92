import MerkleLog.Proofs.Plan
import MerkleLog.Proofs.Refusal

/-!
# Which events can be replayed

A replay looks at the events of the levels one by one, and at their sum.  It succeeds exactly if
there is a size that all events are consistent with: at each of its bits stands the event of the
block that the bit stands for, and no other event is newer than the blocks above it.
-/

namespace MerkleLog

namespace Replay

open Accumulator (sizeOfSlots sizeAt)

variable {kept : List (Option Event)} {slots : List (Option Bytes)} {a : Accumulator} {e : Event}
  {cause : Error} {level n i : Nat}

/-- Every event stands for a node of its level that was completed at some size. -/
def WellPlaced (kept : List (Option Event)) : Prop :=
  ∀ (level : Nat) e, kept[level]? = some (some e) →
    e.level = level ∧ 0 < e.sizeAfter ∧ ((2 ^ level : Nat) : Int) ∣ e.sizeAfter ∧
      isDigest e.hash = true

/-- The events of the levels are those of a log of the given size: for every bit, the event of the
block that the bit stands for; elsewhere none, or one that a later block has consumed. -/
structure Consistent (n : Nat) (kept : List (Option Event)) : Prop where
  present : ∀ level, n.testBit level = true → ∃ e, kept[level]? = some (some e) ∧
    e.sizeAfter = (n / 2 ^ level * 2 ^ level : Nat) ∧ e.hash ≠ zeroDigest
  stale : ∀ level, n.testBit level = false → ∀ e, kept[level]? = some (some e) →
    e.sizeAfter ≤ (n / 2 ^ level * 2 ^ level : Nat)

/-! ## Events that agree with slots, level by level -/

namespace Agrees

lemma check_getElem? (hagrees : Agrees level slots kept) (he : kept[i]? = some (some e)) :
    check (level + i) e = .ok () := by
  induction hagrees generalizing i with
  | nil hkept => cases hkept _ (List.mem_of_getElem? he)
  | free hslot _ ih =>
    cases i with
    | zero => exact (hslot e (Option.some.inj he)).1
    | succ i =>
      rw [← Nat.add_assoc, Nat.add_right_comm]
      exact ih he
  | taken hd _ ih =>
    cases i with
    | zero =>
      obtain rfl := Option.some.inj (Option.some.inj he)
      exact check_last hd _ _
    | succ i =>
      rw [← Nat.add_assoc, Nat.add_right_comm]
      exact ih he

/-- At a taken slot stands the event of the last block that the slots from there upward stand
for. -/
lemma getElem?_taken (hagrees : Agrees level slots kept) {d : Bytes}
    (hd : slots[i]? = some (some d)) :
    kept[i]? = some (some ⟨(level + i : Nat), (sizeAt (level + i) (slots.drop i) : Nat), d⟩) := by
  induction hagrees generalizing i with
  | nil => cases hd
  | free _ _ ih =>
    cases i with
    | zero => cases Option.some.inj hd
    | succ i =>
      rw [← Nat.add_assoc, Nat.add_right_comm]
      exact ih hd
  | @taken level slots d' _ _ _ ih =>
    cases i with
    | zero =>
      obtain rfl := Option.some.inj (Option.some.inj hd)
      rw [Nat.add_zero, List.drop_zero, Accumulator.sizeAt_some]
      rfl
    | succ i =>
      rw [← Nat.add_assoc, Nat.add_right_comm]
      exact ih hd

/-- At a free slot stands no newer event than the slots from there upward stand for. -/
lemma sizeAfter_le_of_free (hagrees : Agrees level slots kept) (hfree : slots[i]?.join = none)
    (he : kept[i]? = some (some e)) : e.sizeAfter ≤ sizeAt (level + i) (slots.drop i) := by
  induction hagrees generalizing i with
  | nil hkept => cases hkept _ (List.mem_of_getElem? he)
  | free hslot _ ih =>
    cases i with
    | zero =>
      rw [Nat.add_zero, List.drop_zero, Accumulator.sizeAt_none]
      exact (hslot e (Option.some.inj he)).2
    | succ i =>
      rw [← Nat.add_assoc, Nat.add_right_comm]
      exact ih hfree he
  | taken _ _ ih =>
    cases i with
    | zero => cases hfree
    | succ i =>
      rw [← Nat.add_assoc, Nat.add_right_comm]
      exact ih hfree he

end Agrees

/-! ## A replay that succeeds -/

lemma sizeAt_drop (slots : List (Option Bytes)) (level : Nat) :
    sizeAt (0 + level) (slots.drop level) = sizeOfSlots slots / 2 ^ level * 2 ^ level := by
  rw [sizeAt, Accumulator.sizeOfSlots_drop, Nat.zero_add]

/-- Where a replay succeeds, every event is well placed and all are consistent with the size. -/
lemma consistent_of_accumulator (ha : accumulator kept = .ok a) :
    WellPlaced kept ∧ a.size ≤ maxWord ∧ Consistent a.size kept := by
  obtain ⟨hagrees, -, hmax⟩ := agrees_of_accumulator ha
  have hzero := zeroDigest_not_mem_of_accumulator ha
  refine ⟨fun level e he => ?_, hmax, ?_, ?_⟩
  · have hcheck := hagrees.check_getElem? he
    rw [Nat.zero_add] at hcheck
    exact check_eq_ok.1 hcheck
  · intro level hbit
    rw [Accumulator.size, Accumulator.testBit_sizeOfSlots, Option.isSome_iff_exists] at hbit
    obtain ⟨d, hd⟩ := hbit
    rw [Option.join_eq_some_iff] at hd
    refine ⟨_, hagrees.getElem?_taken hd, ?_, ?_⟩
    · rw [sizeAt_drop, Accumulator.size]
    · rintro rfl
      exact hzero (List.mem_of_getElem? hd)
  · intro level hbit e he
    rw [Accumulator.size, Accumulator.testBit_sizeOfSlots, Option.isSome_eq_false_iff,
      Option.isNone_iff_eq_none] at hbit
    have hle := hagrees.sizeAfter_le_of_free hbit he
    rwa [sizeAt_drop] at hle

/-- Where the size has no bit left, no event is left either. -/
lemma Consistent.eq_none (hkept : Consistent n kept) (hplaced : WellPlaced kept)
    (hn : n / 2 ^ level = 0) {slot : Option Event} (hslot : slot ∈ kept.drop level) :
    slot = none := by
  obtain ⟨i, hi⟩ := List.getElem?_of_mem hslot
  rw [List.getElem?_drop] at hi
  cases slot with
  | none => rfl
  | some e =>
    have hpow : 2 ^ level ≤ 2 ^ (level + i) := Nat.pow_le_pow_right Nat.two_pos (by omega)
    have hlt : n < 2 ^ (level + i) :=
      (Nat.lt_of_div_eq_zero (Nat.two_pow_pos level) hn).trans_le hpow
    have hle := hkept.stale _ (Nat.testBit_lt_two_pow hlt) e hi
    rw [Nat.div_eq_of_lt hlt, Nat.zero_mul] at hle
    obtain ⟨-, hpos, -⟩ := hplaced _ e hi
    omega

/-- Where the size has a bit left, there are events of the level. -/
lemma Consistent.lt_length (hkept : Consistent n kept) (hn : n / 2 ^ level ≠ 0) :
    level < kept.length := by
  have hpow : 2 ^ level ≤ n := by
    by_contra hlt
    exact hn (Nat.div_eq_of_lt (not_le.1 hlt))
  have hne : n ≠ 0 := by
    rintro rfl
    exact hn (Nat.zero_div _)
  obtain ⟨e, he, -⟩ := hkept.present (Nat.log2 n) (Nat.testBit_log2 hne)
  have hlog : level ≤ Nat.log2 n := (Nat.le_log2 hne).2 hpow
  exact hlog.trans_lt (List.getElem?_eq_some_iff.1 he).1

/-- Where the size has a bit, the event of the level takes its slot. -/
lemma Consistent.agrees_of_set (hkept : Consistent n kept) (hplaced : WellPlaced kept)
    (hbit : n.testBit level = true)
    (hagrees : Agrees (level + 1) slots (kept.drop (level + 1)))
    (hsize : sizeOfSlots slots = n / 2 ^ (level + 1)) :
    ∃ d, d ≠ zeroDigest ∧ Agrees level (some d :: slots) (kept.drop level) := by
  obtain ⟨e, he, hafter, hhash⟩ := hkept.present level hbit
  obtain ⟨hlevel, -, -, hdigest⟩ := hplaced level e he
  have hsum : n / 2 ^ level * 2 ^ level = sizeAt (level + 1) slots + 2 ^ level := by
    rw [Block.div_two_pow_of_set hbit, sizeAt, hsize]
    ring
  have hevent : e = ⟨level, (sizeAt (level + 1) slots + 2 ^ level : Nat), e.hash⟩ := by
    rw [← hlevel, ← hsum, ← hafter]
  obtain ⟨hlength, hat⟩ := List.getElem?_eq_some_iff.1 he
  refine ⟨e.hash, hhash, ?_⟩
  rw [List.drop_eq_getElem_cons hlength, hat, hevent]
  exact .taken hdigest hagrees

/-- Where the size has no bit, the slot of the level stays free. -/
lemma Consistent.agrees_of_clear (hkept : Consistent n kept) (hplaced : WellPlaced kept)
    (hbit : n.testBit level = false) (hlength : level < kept.length)
    (hagrees : Agrees (level + 1) slots (kept.drop (level + 1)))
    (hsize : sizeOfSlots slots = n / 2 ^ (level + 1)) :
    Agrees level (none :: slots) (kept.drop level) := by
  have hsum : n / 2 ^ level * 2 ^ level = sizeAt (level + 1) slots := by
    rw [Block.div_two_pow_of_clear hbit, sizeAt, hsize]
    ring
  rw [List.drop_eq_getElem_cons hlength]
  refine .free (fun e he => ?_) hagrees
  have he' : kept[level]? = some (some e) := List.getElem?_eq_some_iff.2 ⟨hlength, he⟩
  have hle := hkept.stale level hbit e he'
  rw [hsum] at hle
  exact ⟨check_eq_ok.2 (hplaced level e he'), hle⟩

/-- Events that are consistent with a size agree with slots that stand for it. -/
lemma Consistent.exists_agrees (hkept : Consistent n kept) (hplaced : WellPlaced kept)
    (level : Nat) :
    ∃ slots, Agrees level slots (kept.drop level) ∧ sizeOfSlots slots = n / 2 ^ level ∧
      slots.getLast? ≠ some none ∧ some zeroDigest ∉ slots := by
  -- the induction goes up the levels until the size has no bit left
  induction hcount : n / 2 ^ level using Nat.strong_induction_on generalizing level with
  | _ count ih =>
    by_cases hzero : count = 0
    · subst hzero
      exact ⟨[], .nil fun slot => hkept.eq_none hplaced hcount, rfl, by simp, List.not_mem_nil⟩
    · have hlength : level < kept.length := hkept.lt_length (hcount ▸ hzero)
      have hless : n / 2 ^ (level + 1) < count := by
        rw [← hcount, Nat.pow_succ, ← Nat.div_div_eq_div_mul]
        omega
      obtain ⟨slots, hagrees, hsize, htop, hnonzero⟩ := ih _ hless _ rfl
      cases hbit : n.testBit level with
      | true =>
        obtain ⟨d, hd, hagrees'⟩ := hkept.agrees_of_set hplaced hbit hagrees hsize
        refine ⟨some d :: slots, hagrees', ?_, ?_, ?_⟩
        · rw [sizeOfSlots, hsize, ← hcount, Block.div_two_pow_of_set hbit]
        · exact Accumulator.getLast?_cons_ne htop fun _ => Option.some_ne_none d
        · exact List.not_mem_cons_of_ne_of_not_mem (fun heq => hd (Option.some.inj heq).symm)
            hnonzero
      | false =>
        have hagrees' := hkept.agrees_of_clear hplaced hbit hlength hagrees hsize
        have hdouble := Block.div_two_pow_of_clear hbit
        refine ⟨none :: slots, hagrees', ?_, ?_, ?_⟩
        · rw [sizeOfSlots, hsize, ← hcount, hdouble]
        · refine Accumulator.getLast?_cons_ne htop fun hnil => ?_
          rw [hnil, sizeOfSlots] at hsize
          omega
        · exact List.not_mem_cons_of_ne_of_not_mem (Option.some_ne_none _) hnonzero

/-- Events that are consistent with a size are replayed to an accumulator of that size. -/
lemma Consistent.exists_accumulator (hkept : Consistent n kept) (hplaced : WellPlaced kept)
    (hn : n ≤ maxWord) : ∃ a, accumulator kept = .ok a ∧ a.size = n := by
  obtain ⟨slots, hagrees, hsize, htop, hzero⟩ := hkept.exists_agrees hplaced 0
  rw [Nat.pow_zero, Nat.div_one] at hsize
  exact ⟨⟨slots⟩, accumulator_of_agrees hagrees htop (hsize.trans_le hn) hzero, hsize⟩

/-- A replay puts the digest of the event of a level into the slot of every bit of the size. -/
lemma slot_of_accumulator (ha : accumulator kept = .ok a) (level : Nat) :
    a.slots[level]?.join
      = if a.size.testBit level then kept[level]?.join.map Event.hash else none := by
  obtain ⟨hagrees, -⟩ := agrees_of_accumulator ha
  rw [Accumulator.size, Accumulator.testBit_sizeOfSlots]
  cases hslot : a.slots[level]?.join with
  | none => rfl
  | some d =>
    rw [Option.join_eq_some_iff] at hslot
    rw [hagrees.getElem?_taken hslot]
    rfl

/-- The digest in the slot of a bit is that of the node for which a plan asks. -/
lemma partial_of_accumulator (ha : accumulator kept = .ok a) {p : Plan} (hp : p.size = a.size)
    {address : Address} (haddress : (level, address) ∈ p.partials) :
    ∃ e, kept[level]? = some (some e) ∧ e.address = address ∧
      a.slots[level]? = some (some e.hash) := by
  obtain ⟨-, hbit, rfl⟩ := Plan.mem_partials.1 haddress
  rw [hp] at hbit
  obtain ⟨hplaced, -, hkept⟩ := consistent_of_accumulator ha
  obtain ⟨e, he, hafter, -⟩ := hkept.present level hbit
  have hslot := slot_of_accumulator ha level
  rw [if_pos hbit, he] at hslot
  refine ⟨e, he, ?_, Option.join_eq_some_iff.1 hslot⟩
  rw [Event.address, (hplaced level e he).1, hafter, Plan.partialAt, hp]

/-! ## The outcome of a replay -/

/-- A replay succeeds exactly on events that are consistent with some size, and gives the
accumulator of that size.  What is wrong with other events is told unless it is too long. -/
theorem accumulator_iff_consistent (kept : List (Option Event)) :
    ((∃ a, accumulator kept = .ok a) ↔ WellPlaced kept ∧ ∃ n ≤ maxWord, Consistent n kept) ∧
    (∀ n ≤ maxWord, WellPlaced kept → Consistent n kept →
      ∃ a, accumulator kept = .ok a ∧ a.size = n ∧
        (∀ level, a.slots[level]?.join
          = if n.testBit level then kept[level]?.join.map Event.hash else none) ∧
        ∀ p : Plan, p.size = n → ∀ level address, (level, address) ∈ p.partials →
          ∃ e, kept[level]? = some (some e) ∧ e.address = address ∧
            a.slots[level]? = some (some e.hash)) ∧
    ∀ cause, accumulator kept = .error cause →
      (cause.isPartialsFault = true ∨ cause.isEventsFault = true) ∧
      (kept.length ≤ writableLevels →
        (∀ e, some e ∈ kept →
          Text.isWritable e.level = true ∧ Text.isWritable e.sizeAfter = true) →
        cause.isExpressible = true) := by
  refine ⟨⟨?_, ?_⟩, ?_, ?_⟩
  · rintro ⟨a, ha⟩
    obtain ⟨hplaced, hmax, hkept⟩ := consistent_of_accumulator ha
    exact ⟨hplaced, a.size, hmax, hkept⟩
  · rintro ⟨hplaced, n, hn, hkept⟩
    obtain ⟨a, ha, -⟩ := hkept.exists_accumulator hplaced hn
    exact ⟨a, ha⟩
  · intro n hn hplaced hkept
    obtain ⟨a, ha, rfl⟩ := hkept.exists_accumulator hplaced hn
    exact ⟨a, ha, rfl, slot_of_accumulator ha, fun p hp level address =>
      partial_of_accumulator ha hp⟩
  · intro cause ha
    exact ⟨isFault_of_accumulator ha, fun hlength hkept =>
      isExpressible_of_accumulator hlength hkept ha⟩

/-- One event, of the lowest level whose blocks have a width that cannot be written. -/
def lone : List (Option Event) :=
  List.replicate writableLevels none ++ [some ⟨writableLevels, 1, List.replicate digestSize 1⟩]

theorem accumulator_lone :
    ∃ cause, accumulator lone = .error cause ∧ cause.isEventsFault = true ∧
      cause.isExpressible = false ∧ cause.message = Error.inexpressible := by
  have hcheck : check writableLevels ⟨writableLevels, 1, List.replicate digestSize 1⟩
      = .error (.wrongSize writableLevels 1) := by
    have hsize : (1 : Int) % (2 ^ writableLevels : Nat) ≠ 0 := by decide +kernel
    rw [check_eq, if_neg (not_not.2 rfl), if_pos (Or.inr hsize)]
  have hsurvivors : survivors 0 lone = .error (.wrongSize writableLevels 1) := by
    have habove (level : Nat) : survivors level [] = .ok ([], 0) := rfl
    refine survivors_append_eq_error (habove _) ?_
    rewrite [List.length_replicate, Nat.zero_add]
    exact hcheck
  have hlong : (Error.wrongSize writableLevels 1).isExpressible = false := by decide +kernel
  refine ⟨.wrongSize writableLevels 1, ?_, rfl, hlong, Error.message_of_not_expressible hlong⟩
  rw [accumulator, hsurvivors, error_bind]

end Replay

end MerkleLog

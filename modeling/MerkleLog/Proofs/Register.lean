import Mathlib.Algebra.BigOperators.Fin
import MerkleLog.Hash.Sha256
import MerkleLog.Proofs.Replay
import MerkleLog.Register

/-!
# What an accumulator kept in place represents

The variables of an accumulator are a binary number and a digest for each of its one bits.  Both
ways of coming by them establish this, and every append keeps it up, whether it succeeds or not.
To see this the calls in place are compared with those on values: the loop that clears one slot
after the other is the carry, and counting gives the size that the slots stand for.
-/

namespace MerkleLog

open Accumulator (sizeOfSlots sizeAt sizeAt_zero carry)

namespace Accumulator

variable {h : Hash} {slots : List (Option Bytes)} {d : Bytes}

/-- Slots that end in a taken one are as many as the size has bits. -/
lemma length_eq_bitLength (htop : slots.getLast? ≠ some none) :
    slots.length = bitLength (sizeOfSlots slots) := by
  refine le_antisymm ?_ (bitLength_sizeOfSlots_le slots)
  rcases List.eq_nil_or_concat slots with rfl | ⟨front, slot, rfl⟩
  · exact Nat.zero_le _
  · rw [List.concat_eq_append, List.getLast?_concat] at htop
    obtain ⟨top, rfl⟩ : ∃ top, slot = some top :=
      Option.ne_none_iff_exists'.1 fun hnone => htop (congrArg some hnone)
    rw [List.concat_eq_append]
    -- the bit of the highest slot is set
    have hbit : (sizeOfSlots (front ++ [some top])).testBit front.length = true := by
      rw [testBit_sizeOfSlots, List.getElem?_concat_length]
      rfl
    have hle : 2 ^ front.length ≤ sizeOfSlots (front ++ [some top]) :=
      Nat.ge_two_pow_of_testBit hbit
    have hne : sizeOfSlots (front ++ [some top]) ≠ 0 :=
      ((Nat.two_pow_pos _).trans_le hle).ne'
    rw [bitLength, if_neg hne, List.length_append]
    exact Nat.succ_le_succ ((Nat.le_log2 hne).2 hle)

/-- Carrying a digest into slots of digests leaves slots of digests. -/
lemma isDigest_slots_carry (hdigests : ∀ p, some p ∈ slots → isDigest p = true)
    (hd : isDigest d = true) : ∀ p, some p ∈ (carry h slots d).1 → isDigest p = true := by
  induction slots generalizing d with
  | nil =>
    intro p hp
    have hcarry : (carry h [] d).1 = [some d] := rfl
    rw [hcarry, List.mem_singleton] at hp
    rwa [Option.some.inj hp]
  | cons slot slots ih =>
    intro p hp
    have hrest : ∀ q, some q ∈ slots → isDigest q = true :=
      fun q hq => hdigests q (List.mem_cons_of_mem _ hq)
    cases slot with
    | none =>
      have hcarry : (carry h (none :: slots) d).1 = some d :: slots := rfl
      rw [hcarry] at hp
      rcases List.mem_cons.1 hp with hhead | hp
      · rwa [Option.some.inj hhead]
      · exact hrest p hp
    | some older =>
      rw [carry_taken] at hp
      rcases List.mem_cons.1 hp with hhead | hp
      · cases hhead
      · exact ih hrest (isDigest_iff.2 (h.length_pair _ _)) p hp

end Accumulator

namespace Register

variable {h : Hash} {r : Register} {a : Accumulator} {slots front partials : List (Option Bytes)}
  {d leaf : Bytes} {count : Nat}

/-! ## In place and on values -/

/-- Looking through partials in place gives their slots, counted. -/
lemma fill_eq (r : Register) (partials : List (Option Bytes)) :
    r.fill partials = (Accumulator.slotsOf r.slots.length partials).map fun slots =>
      ⟨r.count + sizeAt r.slots.length slots, r.slots ++ slots⟩ := by
  induction partials generalizing r with
  | nil => simp [fill, Accumulator.slotsOf, Except.map]
  | cons p partials ih =>
    rw [fill, Accumulator.slotsOf]
    cases Accumulator.slotOf r.slots.length p with
    | error cause => rfl
    | ok slot =>
      cases slot with
      | none =>
        simp only [ok_bind, ih, List.length_append, List.length_singleton]
        cases Accumulator.slotsOf (r.slots.length + 1) partials with
        | error cause => rfl
        | ok slots => simp [Except.map]
      | some d =>
        simp only [ok_bind, ih, List.length_append, List.length_singleton]
        cases Accumulator.slotsOf (r.slots.length + 1) partials with
        | error cause => rfl
        | ok slots =>
          simp only [Except.map, ok_bind, pure_eq_ok, Accumulator.sizeAt_some,
            List.append_assoc, List.singleton_append, Except.ok.injEq, mk.injEq, and_true]
          omega

/-- Loading in place is loading. -/
theorem load_eq (partials : List (Option Bytes)) :
    load partials = (Accumulator.ofPartials partials).map Accumulator.register := by
  rw [load, Accumulator.ofPartials, fill_eq]
  have hlength : empty.slots.length = 0 := rfl
  rw [hlength]
  cases Accumulator.slotsOf 0 partials with
  | error cause => rfl
  | ok slots =>
    simp only [Except.map, ok_bind, empty, sizeAt_zero, Nat.zero_add, List.nil_append]
    split_ifs <;> rfl

/-- Clearing slots in place from a level on is carrying into the slots from there upward. -/
lemma settle_eq (h : Hash) (count : Nat) (front slots : List (Option Bytes)) (d : Bytes) :
    settle h count front.length (front ++ slots) d
      = (front ++ (carry h slots d).1,
        Accumulator.eventsFrom (front.length + 1) count (carry h slots d).2) := by
  induction slots generalizing front d with
  | nil =>
    rw [settle, dif_neg (by simp), List.append_nil]
    rfl
  | cons slot slots ih =>
    have hlevel : front.length < (front ++ slot :: slots).length := by simp
    have hslot : (front ++ slot :: slots)[front.length] = slot := by simp
    rw [settle, dif_pos hlevel, hslot]
    cases slot with
    | none =>
      simp only [List.set_append_right _ _ le_rfl, Nat.sub_self, List.set_cons_zero]
      rfl
    | some older =>
      have hset : (front ++ some older :: slots).set front.length none
          = (front ++ [none]) ++ slots := by
        simp [List.set_append_right _ _ le_rfl]
      have hrest := ih (front ++ [none]) (h.pair older d)
      rw [List.length_append, List.length_singleton] at hrest
      rw [hset]
      dsimp only
      rw [hrest, Accumulator.carry_taken, Accumulator.eventsFrom, List.append_assoc,
        List.singleton_append]

/-- Appending in place is appending; if it fails, the variables stay as they are. -/
theorem announce_register (h : Hash) (a : Accumulator) (leaf : Bytes) :
    a.register.announce h leaf = match a.append h leaf with
      | .ok (next, events) => (next.register, .ok events)
      | .error cause => (a.register, .error cause) := by
  have hcount : a.register.count = a.size := rfl
  have hslots : a.register.slots = a.slots := rfl
  rw [announce, Accumulator.append, hcount, hslots]
  split_ifs with hleaf hfull
  · rfl
  · rfl
  · have hsettle : settle h (a.size + 1) 0 a.slots leaf = _ :=
      settle_eq h (a.size + 1) [] a.slots leaf
    have hsize : sizeOfSlots (carry h a.slots leaf).1 = a.size + 1 :=
      Accumulator.sizeOfSlots_carry _ _
    dsimp only
    rw [hsettle, Accumulator.register]
    refine Prod.ext ?_ rfl
    exact congrArg (Register.mk · _) hsize.symm

/-- Appending to a register counts on by one, or fails and leaves it as it is. -/
lemma append_of_announce {next : Register} {outcome : Except Error (List Event)}
    (hannounce : r.announce h leaf = (next, outcome)) :
    r.append h leaf = (next, outcome.map fun _ => next.count) := by
  rw [append, hannounce]

/-! ## Partials that can be loaded -/

/-- The partial that a slot stands for: the zero digest is no partial. -/
def standing : Option Bytes → Option Bytes := Option.filter (· ≠ zeroDigest)

@[simp] lemma standing_none : standing none = none := rfl

@[simp] lemma standing_zero : standing (some zeroDigest) = none := by
  rw [standing, Option.filter_some, if_neg (by simp)]

lemma standing_of_ne (hd : d ≠ zeroDigest) : standing (some d) = some d := by
  rw [standing, Option.filter_some, if_pos (decide_eq_true hd)]

lemma standing_eq_some {p : Option Bytes} : standing p = some d ↔ p = some d ∧ d ≠ zeroDigest := by
  rw [standing, Option.filter_eq_some_iff, decide_eq_true_iff]

/-- The number of leaves that partials stand for. -/
def impliedSize (partials : List (Option Bytes)) : Nat :=
  ∑ i ∈ Finset.range partials.length, if (standing partials[i]?.join).isSome then 2 ^ i else 0

/-- Partials that can be loaded: the last is there, each is a digest, and together they do not stand
for too many leaves. -/
structure Loadable (partials : List (Option Bytes)) : Prop where
  top : partials = [] ∨ ∃ d, partials.getLast? = some (some d) ∧ d ≠ zeroDigest
  digests : ∀ d, some d ∈ partials → d ≠ zeroDigest → d.length = 32
  size_le : impliedSize partials ≤ 2 ^ 64 - 1

lemma slotOf_eq_ok {level : Nat} {p slot : Option Bytes} :
    Accumulator.slotOf level p = .ok slot ↔
      standing p = slot ∧ ∀ d, p = some d → d ≠ zeroDigest → isDigest d = true := by
  cases p with
  | none => simp [Accumulator.slotOf]
  | some d =>
    rw [Accumulator.slotOf]
    by_cases hzero : d = zeroDigest
    · rw [if_pos hzero, hzero]
      simp
    · rw [if_neg hzero, standing_of_ne hzero]
      cases hdigest : isDigest d
      · simp [hdigest, hzero]
      · simp [hdigest]

lemma slotsOf_eq_ok {level : Nat} :
    Accumulator.slotsOf level partials = .ok slots ↔
      partials.map standing = slots ∧
        ∀ d, some d ∈ partials → d ≠ zeroDigest → isDigest d = true := by
  induction partials generalizing level slots with
  | nil => simp [Accumulator.slotsOf]
  | cons p partials ih =>
    simp only [Accumulator.slotsOf, bind_eq_ok, slotOf_eq_ok, ih, pure_eq_ok, Except.ok.injEq]
    constructor
    · rintro ⟨slot, ⟨rfl, hp⟩, rest, ⟨rfl, hrest⟩, rfl⟩
      refine ⟨rfl, fun d hd hzero => ?_⟩
      rcases List.mem_cons.1 hd with hhead | hd
      · exact hp d hhead.symm hzero
      · exact hrest d hd hzero
    · rintro ⟨rfl, hall⟩
      refine ⟨_, ⟨rfl, ?_⟩, _, ⟨rfl, ?_⟩, rfl⟩
      · rintro d rfl
        exact hall d List.mem_cons_self
      · exact fun d hd => hall d (List.mem_cons_of_mem _ hd)

lemma sizeOfSlots_map_standing (partials : List (Option Bytes)) :
    sizeOfSlots (partials.map standing) = impliedSize partials := by
  induction partials with
  | nil => rfl
  | cons p partials ih =>
    have hsum : impliedSize (p :: partials)
        = 2 * impliedSize partials + if (standing p).isSome then 1 else 0 := by
      rw [impliedSize, List.length_cons, Finset.sum_range_succ', impliedSize, Finset.mul_sum]
      congr 1
      refine Finset.sum_congr rfl fun i _ => ?_
      rw [List.getElem?_cons_succ, mul_ite, Nat.mul_zero, Nat.pow_succ']
    rw [List.map_cons, hsum, ← ih]
    cases standing p <;> rfl

/-- The last slot is taken if the last partial stands for itself. -/
lemma getLast?_map_standing : (partials.map standing).getLast? ≠ some none ↔
    partials = [] ∨ ∃ d, partials.getLast? = some (some d) ∧ d ≠ zeroDigest := by
  rcases List.eq_nil_or_concat partials with rfl | ⟨front, last, rfl⟩
  · simp
  · rw [List.concat_eq_append, List.map_append, List.map_singleton, List.getLast?_concat,
      List.getLast?_concat, Ne, Option.some_inj, ← Ne, Option.ne_none_iff_exists']
    simp [standing_eq_some]

/-- Loading succeeds on the partials that can be loaded. -/
lemma exists_load : (∃ r, load partials = .ok r) ↔ Loadable partials := by
  have hload : (∃ r, load partials = .ok r) ↔ ∃ a, Accumulator.ofPartials partials = .ok a := by
    rw [load_eq]
    cases Accumulator.ofPartials partials <;> simp [Except.map]
  rw [hload]
  constructor
  · rintro ⟨⟨slots⟩, ha⟩
    obtain ⟨hslots, htop, hsize⟩ := Replay.ofPartials_eq_ok.1 ha
    obtain ⟨rfl, hdigests⟩ := slotsOf_eq_ok.1 hslots
    rw [Accumulator.size, sizeOfSlots_map_standing] at hsize
    constructor
    · exact getLast?_map_standing.1 htop
    · exact fun d hd hzero => isDigest_iff.1 (hdigests d hd hzero)
    · exact hsize
  · intro hloadable
    refine ⟨⟨partials.map standing⟩, Replay.ofPartials_eq_ok.2 ⟨slotsOf_eq_ok.2 ⟨rfl, ?_⟩, ?_, ?_⟩⟩
    · exact fun d hd hzero => isDigest_iff.2 (hloadable.digests d hd hzero)
    · exact getLast?_map_standing.2 hloadable.top
    · rw [Accumulator.size, sizeOfSlots_map_standing]
      exact hloadable.size_le

/-! ## What the variables represent -/

/-- The count is that of a log, and the slots are digests for its one bits. -/
structure Represents (r : Register) : Prop where
  count_le : r.count ≤ 2 ^ 64 - 1
  length_eq : r.slots.length = bitLength r.count
  taken_iff : ∀ i, (∃ d, r.slots[i]? = some (some d)) ↔ r.count.testBit i = true
  length_digest : ∀ d, some d ∈ r.slots → d.length = 32

/-- The accumulators that registers hold. -/
structure Held (a : Accumulator) : Prop where
  size_le : a.size ≤ maxWord
  top : a.slots.getLast? ≠ some none
  digests : ∀ d, some d ∈ a.slots → isDigest d = true

namespace Held

lemma represents (ha : Held a) : a.register.Represents where
  count_le := ha.size_le
  length_eq := Accumulator.length_eq_bitLength ha.top
  taken_iff i := by
    have hbit : a.register.count.testBit i = (a.slots[i]?.join).isSome :=
      Accumulator.testBit_sizeOfSlots a.slots i
    rw [hbit, Option.isSome_iff_exists]
    exact exists_congr fun d => Option.join_eq_some_iff.symm
  length_digest d hd := isDigest_iff.1 (ha.digests d hd)

lemma empty : Held Accumulator.empty where
  size_le := Nat.zero_le _
  top := nofun
  digests := nofun

lemma ofPartials (ha : Accumulator.ofPartials partials = .ok a) : Held a := by
  obtain ⟨hslots, htop, hsize⟩ := Replay.ofPartials_eq_ok.1 ha
  obtain ⟨hstanding, hdigests⟩ := slotsOf_eq_ok.1 hslots
  refine ⟨hsize, htop, fun d hd => ?_⟩
  rw [← hstanding, List.mem_map] at hd
  obtain ⟨p, hp, hpd⟩ := hd
  obtain ⟨rfl, hzero⟩ := standing_eq_some.1 hpd
  exact hdigests d hp hzero

/-- What an append leads to is held again. -/
lemma append {next : Accumulator} {events : List Event} (ha : Held a)
    (hstep : a.append h leaf = .ok (next, events)) : Held next := by
  obtain ⟨hleaf, hroom, hsize⟩ := Accumulator.of_append_eq_ok hstep
  have hlt : a.size < maxWord := lt_of_le_of_ne ha.size_le hroom
  rw [Accumulator.append_eq hleaf hlt] at hstep
  obtain ⟨rfl, -⟩ := Prod.mk.inj (Except.ok.inj hstep)
  constructor
  · rw [hsize]
    exact hlt
  · exact Accumulator.getLast?_carry ha.top leaf
  · exact Accumulator.isDigest_slots_carry ha.digests hleaf

end Held

/-- Whatever calls lead to is a held accumulator. -/
lemma Reached.held (hr : Reached h r) : ∃ a, Held a ∧ r = a.register := by
  -- one case for each call; an append that fails stays with the same accumulator
  have hstep : ∀ (a : Accumulator) (leaf : Bytes), Held a →
      ∃ next, Held next ∧ (a.register.announce h leaf).1 = next.register := by
    intro a leaf ha
    rw [announce_register]
    cases happend : a.append h leaf with
    | error cause => exact ⟨a, ha, rfl⟩
    | ok result => exact ⟨result.1, ha.append happend, rfl⟩
  induction hr with
  | empty => exact ⟨Accumulator.empty, Held.empty, rfl⟩
  | @load partials r hload =>
    rw [load_eq] at hload
    cases hpartials : Accumulator.ofPartials partials with
    | error cause =>
      rw [hpartials] at hload
      cases hload
    | ok a =>
      rw [hpartials] at hload
      exact ⟨a, Held.ofPartials hpartials, (Except.ok.inj hload).symm⟩
  | announce _ leaf ih =>
    obtain ⟨a, ha, rfl⟩ := ih
    exact hstep a leaf ha
  | append _ leaf ih =>
    obtain ⟨a, ha, rfl⟩ := ih
    exact hstep a leaf ha
  | clone _ ih => exact ih

/-! ## Calls and what they lead to -/

/-- An append is refused for a leaf that is no digest or for want of room, and changes nothing then;
else it counts on by one. -/
lemma Held.outcome (ha : Held a) (h : Hash) (leaf : Bytes) :
    (leaf.length ≠ 32 → a.register.announce h leaf = (a.register, .error .leafNotDigest)) ∧
    (leaf.length = 32 → a.size = 2 ^ 64 - 1 →
      a.register.announce h leaf = (a.register, .error (.full (2 ^ 64 - 1)))) ∧
    (leaf.length = 32 → a.size ≠ 2 ^ 64 - 1 → ∃ next events, next.count = a.size + 1 ∧
      a.register.announce h leaf = (next, .ok events)) := by
  rw [announce_register]
  refine ⟨fun hleaf => ?_, fun hleaf hfull => ?_, fun hleaf hroom => ?_⟩
  · have hdigest : isDigest leaf = false := by
      rw [← Bool.not_eq_true, isDigest_iff]
      exact hleaf
    rw [Accumulator.append, hdigest]
    rfl
  · have hfull' : a.size = maxWord := hfull
    rw [Accumulator.append, isDigest_iff.2 hleaf, if_neg (by simp), if_pos hfull', hfull']
    rfl
  · rw [Accumulator.append_eq (isDigest_iff.2 hleaf) (lt_of_le_of_ne ha.size_le hroom)]
    exact ⟨_, _, Accumulator.sizeOfSlots_carry _ _, rfl⟩

/-- Whatever calls lead to represents a number of leaves, and so it goes on: an append that is
refused leaves the variables as they are, and every other one counts on by one.  Partials can be
loaded exactly if they are digests for a number of leaves that a log may have. -/
theorem represents_of_reached (hr : Reached h r) :
    r.Represents ∧
    (∃ a : Accumulator, r = a.register ∧ ∀ leaf, r.announce h leaf = match a.append h leaf with
      | .ok (next, events) => (next.register, .ok events)
      | .error cause => (r, .error cause)) ∧
    (∀ leaf,
      (leaf.length ≠ 32 → r.announce h leaf = (r, .error .leafNotDigest) ∧
        r.append h leaf = (r, .error .leafNotDigest)) ∧
      (leaf.length = 32 → r.count = 2 ^ 64 - 1 →
        r.announce h leaf = (r, .error (.full (2 ^ 64 - 1))) ∧
        r.append h leaf = (r, .error (.full (2 ^ 64 - 1)))) ∧
      (leaf.length = 32 → r.count ≠ 2 ^ 64 - 1 → ∃ next events, next.count = r.count + 1 ∧
        r.announce h leaf = (next, .ok events) ∧ r.append h leaf = (next, .ok (r.count + 1)))) ∧
    ∀ partials, load partials = (Accumulator.ofPartials partials).map Accumulator.register ∧
      ((∃ r, load partials = .ok r) ↔ Loadable partials) := by
  obtain ⟨a, ha, rfl⟩ := hr.held
  refine ⟨ha.represents, ⟨a, rfl, fun leaf => announce_register h a leaf⟩, fun leaf => ?_,
    fun partials => ⟨load_eq partials, exists_load⟩⟩
  obtain ⟨hrefused, hfull, hcounted⟩ := ha.outcome h leaf
  refine ⟨fun hleaf => ?_, fun hleaf hsize => ?_, fun hleaf hsize => ?_⟩
  · have hannounce := hrefused hleaf
    exact ⟨hannounce, append_of_announce hannounce⟩
  · have hannounce := hfull hleaf hsize
    exact ⟨hannounce, append_of_announce hannounce⟩
  · obtain ⟨next, events, hcount, hannounce⟩ := hcounted hleaf hsize
    refine ⟨next, events, hcount, hannounce, ?_⟩
    rw [append_of_announce hannounce, hcount]
    rfl

/-- A log that holds as many leaves as it may. -/
theorem represents_of_reached_full :
    let r : Register := ⟨2 ^ 64 - 1, List.replicate 64 (some (List.replicate 32 1))⟩
    Reached Sha256.hash r ∧ r.Represents ∧
      r.append Sha256.hash (List.replicate 32 2) = (r, .error (.full (2 ^ 64 - 1))) ∧
      (r.append Sha256.hash []).1 = r := by
  intro r
  have hload : load (List.replicate 64 (some (List.replicate 32 1))) = .ok r := by decide +kernel
  have hr : Reached Sha256.hash r := .load hload
  obtain ⟨hrepresents, -, houtcome, -⟩ := represents_of_reached hr
  obtain ⟨-, hfull, -⟩ := houtcome (List.replicate 32 2)
  obtain ⟨hrefused, -⟩ := houtcome []
  refine ⟨hr, hrepresents, (hfull (by decide) rfl).2, ?_⟩
  rw [(hrefused (by decide)).2]

end Register

end MerkleLog

import Mathlib.Tactic.Ring
import MerkleLog.Accumulator
import MerkleLog.Proofs.Outcome

/-!
# Carrying and appending

What carrying a digest into slots does to them and to the number of leaves that they stand for, and
what an append announces.  Nothing is said here of what the digests are.
-/

namespace MerkleLog

namespace Accumulator

variable {h : Hash} {level size : Nat} {slots : List (Option Bytes)} {leaf d : Bytes}
  {ds : List Bytes} {a : Accumulator}

/-! ## Sizes -/

/-- The number of leaves that the slots from a level upward stand for. -/
def sizeAt (level : Nat) (slots : List (Option Bytes)) : Nat := sizeOfSlots slots * 2 ^ level

@[simp] lemma sizeAt_zero (slots : List (Option Bytes)) : sizeAt 0 slots = sizeOfSlots slots := by
  simp [sizeAt]

@[simp] lemma sizeAt_nil (level : Nat) : sizeAt level [] = 0 := by
  simp [sizeAt, sizeOfSlots]

@[simp] lemma sizeAt_none (level : Nat) (slots : List (Option Bytes)) :
    sizeAt level (none :: slots) = sizeAt (level + 1) slots := by
  rw [sizeAt, sizeAt, sizeOfSlots]
  ring

@[simp] lemma sizeAt_some (level : Nat) (d : Bytes) (slots : List (Option Bytes)) :
    sizeAt level (some d :: slots) = sizeAt (level + 1) slots + 2 ^ level := by
  rw [sizeAt, sizeAt, sizeOfSlots]
  ring

lemma two_pow_dvd_sizeAt (level : Nat) (slots : List (Option Bytes)) :
    2 ^ level ∣ sizeAt level slots :=
  Nat.dvd_mul_left _ _

/-- The size has the bits of the levels whose slots are taken. -/
lemma testBit_sizeOfSlots (slots : List (Option Bytes)) (i : Nat) :
    (sizeOfSlots slots).testBit i = (slots[i]?.join).isSome := by
  induction slots generalizing i with
  | nil => simp [sizeOfSlots]
  | cons slot slots ih =>
    cases slot <;> cases i with
    | zero => simp [sizeOfSlots, Nat.testBit_zero]
    | succ i =>
      rw [sizeOfSlots, Nat.testBit_succ, List.getElem?_cons_succ, ← ih]
      congr 1
      omega

/-- Slots from a level upward stand for the blocks of that level that fit into the size. -/
lemma sizeOfSlots_drop (slots : List (Option Bytes)) (i : Nat) :
    sizeOfSlots (slots.drop i) = sizeOfSlots slots / 2 ^ i := by
  induction i generalizing slots with
  | zero => simp
  | succ i ih =>
    have hhalf : sizeOfSlots slots / 2 = sizeOfSlots (slots.drop 1) := by
      cases slots with
      | nil => rfl
      | cons slot slots =>
        rw [List.drop_one, List.tail_cons]
        cases slot <;> rw [sizeOfSlots] <;> omega
    rw [Nat.pow_succ', ← Nat.div_div_eq_div_mul, hhalf, ← ih, List.drop_drop, Nat.add_comm]

lemma sizeOfSlots_lt_two_pow (slots : List (Option Bytes)) :
    sizeOfSlots slots < 2 ^ slots.length := by
  induction slots with
  | nil => exact Nat.one_pos
  | cons slot slots ih =>
    rw [List.length_cons, Nat.pow_succ]
    cases slot <;> rw [sizeOfSlots] <;> omega

/-- The size has no more bits than there are slots. -/
lemma bitLength_sizeOfSlots_le (slots : List (Option Bytes)) :
    bitLength (sizeOfSlots slots) ≤ slots.length := by
  rw [bitLength]
  split
  · exact Nat.zero_le _
  · rename_i hne
    exact (Nat.log2_lt hne).2 (sizeOfSlots_lt_two_pow slots)

/-! ## Carrying -/

/-- A digest that is carried into a taken slot frees it and goes on joined. -/
lemma carry_taken (older d : Bytes) (rest : List (Option Bytes)) :
    carry h (some older :: rest) d
      = (none :: (carry h rest (h.pair older d)).1,
        h.pair older d :: (carry h rest (h.pair older d)).2) := rfl

lemma sizeOfSlots_carry (slots : List (Option Bytes)) (d : Bytes) :
    sizeOfSlots (carry h slots d).1 = sizeOfSlots slots + 1 := by
  induction slots generalizing d with
  | nil => rfl
  | cons slot slots ih =>
    cases slot with
    | none => rfl
    | some older =>
      rw [carry_taken, sizeOfSlots, ih, sizeOfSlots]
      omega

/-- Slots end in a taken one if those above the lowest do, or the lowest is taken itself. -/
lemma getLast?_cons_ne {slot : Option Bytes} (htop : slots.getLast? ≠ some none)
    (hslot : slots = [] → slot ≠ none) : (slot :: slots).getLast? ≠ some none := by
  cases slots with
  | nil => exact fun hlast => hslot rfl (Option.some.inj hlast)
  | cons next rest => rwa [List.getLast?_cons_cons]

lemma getLast?_of_cons {slot : Option Bytes} (htop : (slot :: slots).getLast? ≠ some none) :
    slots.getLast? ≠ some none := by
  cases slots with
  | nil => exact nofun
  | cons next rest => rwa [List.getLast?_cons_cons] at htop

/-- A carry settles at the end of the slots or before. -/
lemma getLast?_carry (htop : slots.getLast? ≠ some none) (d : Bytes) :
    (carry h slots d).1.getLast? ≠ some none := by
  induction slots generalizing d with
  | nil => exact nofun
  | cons slot slots ih =>
    have hrest := getLast?_of_cons htop
    cases slot with
    | none =>
      cases slots with
      | nil => exact nofun
      | cons next rest =>
        have hcarry : (carry h (none :: next :: rest) d).1 = some d :: next :: rest := rfl
        rwa [hcarry, List.getLast?_cons_cons]
    | some older =>
      -- something is carried on, so that slots follow the one that is freed
      have hne : (carry h slots (h.pair older d)).1 ≠ [] := by
        intro hnil
        have := sizeOfSlots_carry (h := h) slots (h.pair older d)
        rw [hnil, sizeOfSlots] at this
        omega
      obtain ⟨next, rest, hnext⟩ := List.exists_cons_of_ne_nil hne
      have htop' := ih hrest (h.pair older d)
      rw [carry_taken, hnext, List.getLast?_cons_cons, ← hnext]
      exact htop'

/-- Every parent that a carry forms needs a taken slot. -/
lemma two_pow_length_carry_le (slots : List (Option Bytes)) (d : Bytes) :
    2 ^ (carry h slots d).2.length ≤ sizeOfSlots slots + 1 := by
  induction slots generalizing d with
  | nil => exact le_rfl
  | cons slot slots ih =>
    cases slot with
    | none => exact Nat.le_add_left _ _
    | some older =>
      have hle := ih (h.pair older d)
      rw [carry_taken, List.length_cons, Nat.pow_succ, sizeOfSlots]
      omega

/-- The number of taken slots. -/
def occupied (slots : List (Option Bytes)) : Nat := slots.countP Option.isSome

@[simp] lemma occupied_none (slots : List (Option Bytes)) :
    occupied (none :: slots) = occupied slots :=
  List.countP_cons_of_neg (by simp)

@[simp] lemma occupied_some (d : Bytes) (slots : List (Option Bytes)) :
    occupied (some d :: slots) = occupied slots + 1 :=
  List.countP_cons_of_pos (by simp)

/-- A carry takes one slot and frees one for every parent that it forms. -/
lemma length_carry_add_occupied (slots : List (Option Bytes)) (d : Bytes) :
    (carry h slots d).2.length + occupied (carry h slots d).1 = occupied slots + 1 := by
  induction slots generalizing d with
  | nil => rfl
  | cons slot slots ih =>
    cases slot with
    | none =>
      have hcarry : carry h (none :: slots) d = (some d :: slots, []) := rfl
      rw [hcarry, occupied_some, occupied_none, List.length_nil, Nat.zero_add]
    | some older =>
      have hrest := ih (h.pair older d)
      rw [carry_taken, List.length_cons, occupied_none, occupied_some]
      omega

lemma isDigest_carry (slots : List (Option Bytes)) (d : Bytes) :
    ∀ p ∈ (carry h slots d).2, isDigest p = true := by
  induction slots generalizing d with
  | nil => exact nofun
  | cons slot slots ih =>
    cases slot with
    | none => exact nofun
    | some older =>
      rw [carry_taken, List.forall_mem_cons]
      exact ⟨isDigest_iff.2 (h.length_pair _ _), ih _⟩

/-! ## Appending -/

/-- The events of an append have its size and consecutive levels. -/
lemma mem_eventsFrom {e : Event} (he : e ∈ eventsFrom level size ds) :
    ∃ k < ds.length, e.level = (level + k : Nat) ∧ e.sizeAfter = size ∧ e.hash ∈ ds := by
  induction ds generalizing level with
  | nil => cases he
  | cons d ds ih =>
    rcases List.mem_cons.1 he with rfl | he
    · exact ⟨0, Nat.succ_pos _, rfl, rfl, List.mem_cons_self⟩
    · obtain ⟨k, hk, hlevel, hsize, hhash⟩ := ih he
      refine ⟨k + 1, Nat.succ_lt_succ hk, ?_, hsize, List.mem_cons_of_mem _ hhash⟩
      rw [hlevel, Nat.add_assoc, Nat.add_comm 1 k]

@[simp] lemma length_eventsFrom (level size : Nat) (ds : List Bytes) :
    (eventsFrom level size ds).length = ds.length := by
  induction ds generalizing level with
  | nil => rfl
  | cons d ds ih => rw [eventsFrom, List.length_cons, ih, List.length_cons]

lemma append_eq (hleaf : isDigest leaf = true) (hfull : a.size < maxWord) :
    a.append h leaf = .ok (⟨(carry h a.slots leaf).1⟩,
      eventsFrom 0 (a.size + 1) (leaf :: (carry h a.slots leaf).2)) := by
  rw [append, hleaf, if_neg (by simp), if_neg hfull.ne]

/-- What is appended is a digest, and there was room for it. -/
lemma of_append_eq_ok {next : Accumulator} {events : List Event}
    (hstep : a.append h leaf = .ok (next, events)) :
    isDigest leaf = true ∧ a.size ≠ maxWord ∧ next.size = a.size + 1 := by
  rw [append] at hstep
  split at hstep
  · cases hstep
  · rename_i hleaf
    split at hstep
    · cases hstep
    · rename_i hfull
      obtain ⟨rfl, -⟩ := Prod.mk.inj (Except.ok.inj hstep)
      exact ⟨by simpa using hleaf, hfull, sizeOfSlots_carry _ _⟩

/-- Events and taken slots together grow by two with every append. -/
lemma length_append_add_occupied {next : Accumulator} {events : List Event}
    (hleaf : isDigest leaf = true) (hfull : a.size < maxWord)
    (hstep : a.append h leaf = .ok (next, events)) :
    events.length + occupied next.slots = occupied a.slots + 2 := by
  rw [append_eq hleaf hfull] at hstep
  obtain ⟨rfl, rfl⟩ := Prod.mk.inj (Except.ok.inj hstep)
  have hcarry := length_carry_add_occupied (h := h) a.slots leaf
  rw [length_eventsFrom, List.length_cons]
  dsimp only
  omega

end Accumulator

end MerkleLog

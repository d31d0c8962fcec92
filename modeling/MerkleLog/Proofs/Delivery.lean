import Mathlib.Data.List.Induction
import MerkleLog.Hash.Sha256
import MerkleLog.Proofs.Ledger
import MerkleLog.Proofs.Replay

/-!
# Events in any order

The events of a log may be delivered in any order and any number of times.  What is kept of a stream
is, at every level, an event that no other event of the level is newer than, and the events of a log
are those of its complete blocks.  So at every level the last complete block is kept: where the
number of complete blocks is odd, it is the one that the slot holds; where it is even, it is the
right half of a block above, and no newer than that.  This is all that a replay needs.
-/

namespace MerkleLog

namespace Replay

variable {stream : List Event} {kept : List (Option Event)} {e : Event}

/-! ## What is kept of a stream -/

/-- At every level an event of the stream is kept that no event of the level is newer than. -/
structure Newest (stream : List Event) (kept : List (Option Event)) : Prop where
  mem : ∀ (level : Nat) e, kept[level]? = some (some e) → e ∈ stream ∧ e.level = level
  newest : ∀ e ∈ stream, ∃ e', kept[e.level.toNat]? = some (some e') ∧ e.sizeAfter ≤ e'.sizeAfter

lemma newest_nil : Newest [] [] where
  mem := nofun
  newest := nofun

/-- Making room for a level keeps the same events. -/
lemma getElem?_append_replicate {level count : Nat} :
    (kept ++ List.replicate count none)[level]? = some (some e) ↔
      kept[level]? = some (some e) := by
  rcases Nat.lt_or_ge level kept.length with hlevel | hlevel
  · rw [List.getElem?_append_left hlevel]
  · rw [List.getElem?_append_right hlevel, List.getElem?_eq_none hlevel, List.getElem?_replicate]
    split <;> simp

lemma Newest.room (hkept : Newest stream kept) (count : Nat) :
    Newest stream (kept ++ List.replicate count none) where
  mem level e he := hkept.mem level e (getElem?_append_replicate.1 he)
  newest e he := by
    obtain ⟨e', he', hle⟩ := hkept.newest e he
    exact ⟨e', getElem?_append_replicate.2 he', hle⟩

/-- An event that is newer than what is kept for its level takes its place. -/
lemma Newest.set (hkept : Newest stream kept) (hlevel : 0 ≤ e.level)
    (hlength : e.level.toNat < kept.length)
    (hnewer : ∀ older, kept[e.level.toNat]? = some (some older) →
      older.sizeAfter < e.sizeAfter) :
    Newest (stream ++ [e]) (kept.set e.level.toNat (some e)) where
  mem level e' he' := by
    by_cases hsame : e.level.toNat = level
    · subst hsame
      rw [List.getElem?_set_self hlength] at he'
      obtain rfl := Option.some.inj (Option.some.inj he')
      exact ⟨by simp, by omega⟩
    · rw [List.getElem?_set_ne hsame] at he'
      obtain ⟨hmem, hlevel'⟩ := hkept.mem level e' he'
      exact ⟨List.mem_append_left _ hmem, hlevel'⟩
  newest e' he' := by
    rcases List.mem_append.1 he' with he' | he'
    · obtain ⟨older, holder, hle⟩ := hkept.newest e' he'
      by_cases hsame : e.level.toNat = e'.level.toNat
      · -- the event replaced was the newest of its level so far
        rw [← hsame] at holder ⊢
        exact ⟨e, List.getElem?_set_self hlength, hle.trans (hnewer older holder).le⟩
      · exact ⟨older, by rwa [List.getElem?_set_ne hsame], hle⟩
    · obtain rfl := List.mem_singleton.1 he'
      exact ⟨_, List.getElem?_set_self hlength, le_rfl⟩

/-- Any other event changes nothing. -/
lemma Newest.skip (hkept : Newest stream kept) {older : Event}
    (holder : kept[e.level.toNat]? = some (some older)) (hle : e.sizeAfter ≤ older.sizeAfter) :
    Newest (stream ++ [e]) kept where
  mem level e' he' := by
    obtain ⟨hmem, hlevel⟩ := hkept.mem level e' he'
    exact ⟨List.mem_append_left _ hmem, hlevel⟩
  newest e' he' := by
    rcases List.mem_append.1 he' with he' | he'
    · exact hkept.newest e' he'
    · obtain rfl := List.mem_singleton.1 he'
      exact ⟨older, holder, hle⟩

/-- One event more is observed. -/
lemma Newest.observe (hkept : Newest stream kept) (hlevel : 0 ≤ e.level) :
    ∃ kept', Replay.observe kept e = .ok kept' ∧ Newest (stream ++ [e]) kept' := by
  rw [Replay.observe, if_pos hlevel]
  refine ⟨_, rfl, ?_⟩
  have hroom := hkept.room (e.level.toNat + 1 - kept.length)
  have hlength : e.level.toNat
      < (kept ++ List.replicate (e.level.toNat + 1 - kept.length) none).length := by
    rw [List.length_append, List.length_replicate]
    omega
  generalize kept ++ List.replicate (e.level.toNat + 1 - kept.length) none = room at hroom hlength
  have hat : room[e.level.toNat]? = some room[e.level.toNat] := List.getElem?_eq_getElem hlength
  rw [Replay.keep, hat, Option.join_some]
  cases hslot : room[e.level.toNat] with
  | none =>
    rw [hslot] at hat
    refine hroom.set hlevel hlength fun older holder => ?_
    cases hat.symm.trans holder
  | some older =>
    rw [hslot] at hat
    by_cases hnewer : older.sizeAfter < e.sizeAfter
    · have hisNewer : isNewer e (some older) = true := decide_eq_true hnewer
      rw [if_pos hisNewer]
      refine hroom.set hlevel hlength fun older' holder' => ?_
      obtain rfl := Option.some.inj (Option.some.inj (hat.symm.trans holder'))
      exact hnewer
    · rw [if_neg (by simpa [isNewer] using hnewer)]
      exact hroom.skip hat (not_lt.1 hnewer)

/-- What is kept of a stream of events with levels. -/
lemma exists_latest (hlevels : ∀ e ∈ stream, 0 ≤ e.level) :
    ∃ kept, latest stream = .ok kept ∧ Newest stream kept := by
  induction stream using List.reverseRecOn with
  | nil => exact ⟨[], rfl, newest_nil⟩
  | append_singleton stream e ih =>
    rw [List.forall_mem_append] at hlevels
    obtain ⟨kept, hlatest, hkept⟩ := ih hlevels.1
    obtain ⟨kept', hobserve, hkept'⟩ := hkept.observe (hlevels.2 e List.mem_cons_self)
    refine ⟨kept', ?_, hkept'⟩
    rw [latest, List.foldlM_append, ← latest, hlatest, ok_bind, List.foldlM_cons, hobserve]
    rfl

end Replay

/-! ## The events of a log -/

namespace Accumulator

variable {h : Hash} {leaves : List Bytes} {n : Nat} {a last : Accumulator} {events : List Event}

/-- Append leaves in order, and list the events of all appends. -/
def appendEvents (h : Hash) (a : Accumulator) : List Bytes → Except Error (Accumulator × List Event)
  | [] => .ok (a, [])
  | leaf :: rest => do
    let (next, events) ← a.append h leaf
    let (last, later) ← next.appendEvents h rest
    return (last, events ++ later)

lemma appendEvents_cons_eq_ok {leaf : Bytes} :
    a.appendEvents h (leaf :: leaves) = .ok (last, events) ↔
      ∃ next now later, a.append h leaf = .ok (next, now) ∧
        next.appendEvents h leaves = .ok (last, later) ∧ now ++ later = events := by
  rw [appendEvents, bind_eq_ok]
  constructor
  · rintro ⟨⟨next, now⟩, hstep, hrest⟩
    obtain ⟨⟨last', later⟩, hrun, heq⟩ := bind_eq_ok.1 hrest
    obtain ⟨rfl, rfl⟩ := Prod.mk.inj (Except.ok.inj heq)
    exact ⟨next, now, later, hstep, hrun, rfl⟩
  · rintro ⟨next, now, later, hstep, hrun, rfl⟩
    exact ⟨(next, now), hstep, bind_eq_ok.2 ⟨(last, later), hrun, rfl⟩⟩

/-- Leaves that are all taken have room. -/
lemma size_add_length_le (ha : a.size ≤ maxWord)
    (hrun : a.appendEvents h leaves = .ok (last, events)) : a.size + leaves.length ≤ maxWord := by
  induction leaves generalizing a events with
  | nil => exact ha
  | cons leaf leaves ih =>
    obtain ⟨next, now, later, hstep, hrun, -⟩ := appendEvents_cons_eq_ok.1 hrun
    obtain ⟨-, hfull, hsize⟩ := of_append_eq_ok hstep
    have hrest := ih (by omega) hrun
    rw [List.length_cons]
    omega

/-- The leaves from a place on announce the blocks that stop after that place. -/
lemma appendEvents_of_holds (hleaves : ∀ d ∈ leaves, isDigest d) (hmax : leaves.length ≤ maxWord)
    (hslots : Holds h leaves 0 n a.slots) (hn : n ≤ leaves.length) :
    ∃ last events, a.appendEvents h (leaves.drop n) = .ok (last, events) ∧
      Holds h leaves 0 leaves.length last.slots ∧
      ∀ e, e ∈ events ↔ ∃ b : Block, n < b.stop ∧ b.stop ≤ leaves.length ∧
        eventOf h leaves b = e := by
  induction hleft : leaves.length - n generalizing n a with
  | zero =>
    obtain rfl : n = leaves.length := by omega
    refine ⟨a, [], by rw [List.drop_length]; rfl, hslots, fun e => ?_⟩
    simp only [List.not_mem_nil, false_iff]
    rintro ⟨b, hlow, hhigh, -⟩
    omega
  | succ left ih =>
    have hlt : n < leaves.length := by omega
    have hleaf := hleaves _ (List.getElem_mem hlt)
    obtain ⟨next, rise, hstep, hslots', hdvd, hndvd⟩ :=
      append_of_holds hslots hlt hleaf (by omega)
    obtain ⟨last, later, hrun, hlast, hlater⟩ := ih hslots' hlt (by omega)
    refine ⟨last, (completed rise (n + 1)).map (eventOf h leaves) ++ later, ?_, hlast, fun e => ?_⟩
    · rw [List.drop_eq_getElem_cons hlt]
      exact appendEvents_cons_eq_ok.2 ⟨next, _, later, hstep, hrun, rfl⟩
    · rw [List.mem_append, hlater, List.mem_map]
      constructor
      · rintro (⟨b, hb, rfl⟩ | ⟨b, hlow, hhigh, rfl⟩)
        · have hstop := (mem_completed (Nat.succ_pos n) hdvd hndvd).1 hb
          exact ⟨b, by omega, by omega, rfl⟩
        · exact ⟨b, by omega, hhigh, rfl⟩
      · rintro ⟨b, hlow, hhigh, rfl⟩
        rcases Nat.eq_or_lt_of_le (Nat.succ_le_of_lt hlow) with hstop | hlow
        · exact Or.inl ⟨b, (mem_completed (Nat.succ_pos n) hdvd hndvd).2 hstop.symm, rfl⟩
        · exact Or.inr ⟨b, hlow, hhigh, rfl⟩

end Accumulator

/-! ## Replay -/

namespace Replay

open Accumulator (Holds eventOf sizeAt)

variable {h : Hash} {leaves : List Bytes} {stream : List Event} {kept : List (Option Event)}
  {slots : List (Option Bytes)} {level count n : Nat}

/-- A stream of the events of all blocks that stop at or before a size. -/
def Covers (h : Hash) (leaves : List Bytes) (n : Nat) (stream : List Event) : Prop :=
  ∀ e, e ∈ stream ↔ ∃ b : Block, b.stop ≤ n ∧ eventOf h leaves b = e

lemma check_eventOf (hleaves : ∀ d ∈ leaves, isDigest d) (b : Block) :
    check b.level (eventOf h leaves b) = .ok () := by
  have hpos : 0 < b.stop := Nat.zero_lt_of_lt b.start_lt_stop
  exact check_eq_ok.2 ⟨rfl, Int.natCast_pos.2 hpos, Int.natCast_dvd_natCast.2 b.two_pow_dvd_stop,
    Block.isDigest_digest hleaves⟩

/-- An event that is kept is that of a complete block of its level. -/
lemma Newest.exists_block (hkept : Newest stream kept) (hstream : Covers h leaves n stream)
    {e : Event} (he : kept[level]? = some (some e)) :
    ∃ index, Block.stop ⟨level, index⟩ ≤ n ∧ eventOf h leaves ⟨level, index⟩ = e := by
  obtain ⟨hmem, hlevel⟩ := hkept.mem level e he
  obtain ⟨⟨level', index⟩, hstop, rfl⟩ := (hstream e).1 hmem
  obtain rfl : level' = level := Int.ofNat_inj.1 hlevel
  exact ⟨index, hstop, rfl⟩

/-- Of the complete blocks of a level, the event of the last is kept. -/
lemma Newest.getElem?_last (hkept : Newest stream kept) (hstream : Covers h leaves n stream)
    (hlow : Block.stop ⟨level, count⟩ ≤ n) (hhigh : n < Block.stop ⟨level, count + 1⟩) :
    kept[level]? = some (some (eventOf h leaves ⟨level, count⟩)) := by
  have hmem : eventOf h leaves ⟨level, count⟩ ∈ stream := (hstream _).2 ⟨_, hlow, rfl⟩
  obtain ⟨e, he, hle⟩ := hkept.newest _ hmem
  obtain ⟨index, hstop, rfl⟩ := hkept.exists_block hstream he
  have hlast : count + 1 ≤ index + 1 := by
    have hle' : Block.stop ⟨level, count⟩ ≤ Block.stop ⟨level, index⟩ := Int.ofNat_le.1 hle
    exact Nat.le_of_mul_le_mul_right hle' (Nat.two_pow_pos level)
  have hfirst : index + 1 < count + 1 + 1 :=
    Nat.lt_of_mul_lt_mul_right (hstop.trans_lt hhigh)
  obtain rfl : index = count := by omega
  exact he

/-- Nothing is kept of the levels whose blocks are all longer than the log. -/
lemma Newest.eq_none (hkept : Newest stream kept) (hstream : Covers h leaves n stream)
    (hshort : n < 2 ^ level) {slot : Option Event} (hslot : slot ∈ kept.drop level) :
    slot = none := by
  obtain ⟨i, hi⟩ := List.getElem?_of_mem hslot
  rw [List.getElem?_drop] at hi
  cases slot with
  | none => rfl
  | some e =>
    obtain ⟨index, hstop, -⟩ := hkept.exists_block hstream hi
    have hpow : 2 ^ level ≤ 2 ^ (level + i) := Nat.pow_le_pow_right Nat.two_pos (by omega)
    rw [Block.stop_eq] at hstop
    dsimp only at hstop
    omega

/-- What is kept of the events of a log agrees with its slots. -/
lemma Newest.agrees (hkept : Newest stream kept) (hstream : Covers h leaves n stream)
    (hleaves : ∀ d ∈ leaves, isDigest d) (hslots : Holds h leaves level count slots)
    (hlow : Block.start ⟨level, count⟩ ≤ n) (hhigh : n < Block.stop ⟨level, count⟩) :
    Agrees level slots (kept.drop level) := by
  induction hslots with
  | nil level =>
    rw [Block.stop_eq, Block.start_zero, Nat.zero_add] at hhigh
    exact .nil fun slot hslot => hkept.eq_none hstream hhigh hslot
  | @free level count rest hcount hrest ih =>
    -- the last complete block is the right half of the last one above
    obtain ⟨last, rfl⟩ : ∃ last, count = last + 1 := ⟨count - 1, by omega⟩
    rw [Block.start_left] at hlow
    have hlast := hkept.getElem?_last hstream ((Block.stop_right level last).trans_le hlow) hhigh
    have hsize : sizeAt (level + 1) rest = Block.stop ⟨level, 2 * last + 1⟩ := by
      rw [hrest.sizeAt_eq, Block.stop_right]
      rfl
    have hhigh' : n < Block.stop ⟨level + 1, last + 1⟩ := by
      rw [← Block.stop_right]
      exact hhigh.trans (Block.start_lt_stop ⟨level, 2 * (last + 1) + 1⟩)
    obtain ⟨hlength, hevent⟩ := List.getElem?_eq_some_iff.1 hlast
    rw [List.drop_eq_getElem_cons hlength, hevent]
    refine .free (fun e he => ?_) (ih hlow hhigh')
    obtain rfl := Option.some.inj he
    exact ⟨check_eventOf hleaves _, Int.ofNat_le.2 hsize.ge⟩
  | @taken level count rest hrest ih =>
    -- the last complete block is the one that the slot holds
    have hlast := hkept.getElem?_last hstream hlow hhigh
    have hsize : Block.stop ⟨level, 2 * count⟩ = sizeAt (level + 1) rest + 2 ^ level := by
      rw [hrest.sizeAt_eq, Block.stop_eq, Block.start_left]
    have hlow' : Block.start ⟨level + 1, count⟩ ≤ n := by
      rw [← Block.start_left]
      exact (Block.start_lt_stop ⟨level, 2 * count⟩).le.trans hlow
    obtain ⟨hlength, hevent⟩ := List.getElem?_eq_some_iff.1 hlast
    rw [List.drop_eq_getElem_cons hlength, hevent, eventOf, hsize]
    exact .taken (Block.isDigest_digest hleaves) (ih hlow' (by rwa [← Block.stop_right]))

/-- Whatever the order of its events, and however often each is repeated, a log is restored from
them: the accumulator is that of the log, and the tree has its root. -/
theorem restores_from_any_order (h : Hash) (hleaves : ∀ d ∈ leaves, isDigest d) :
    (leaves.length ≤ maxWord →
      ∃ a events, Accumulator.empty.appendEvents h leaves = .ok (a, events)) ∧
    ∀ a events, Accumulator.empty.appendEvents h leaves = .ok (a, events) →
      some zeroDigest ∉ a.slots → ∀ stream, (∀ e, e ∈ stream ↔ e ∈ events) →
        ∃ kept, latest stream = .ok kept ∧ accumulator kept = .ok a ∧
          (leaves ≠ [] →
            ∃ t root, tree kept = .ok t ∧ a.root h = .ok root ∧ t.digest h = root) := by
  have hrun (hmax : leaves.length ≤ maxWord) :=
    Accumulator.appendEvents_of_holds (a := .empty) hleaves hmax (Holds.nil (h := h) 0)
      (Nat.zero_le _)
  constructor
  · intro hmax
    obtain ⟨a, events, hrun, -⟩ := hrun hmax
    exact ⟨a, events, hrun⟩
  · intro a events hrun' hzero stream hmem
    have hmax : leaves.length ≤ maxWord := by
      have hsize := Accumulator.size_add_length_le (a := .empty) (Nat.zero_le maxWord) hrun'
      exact (Nat.le_add_left _ _).trans hsize
    obtain ⟨a', events', hrun, hslots, hevents⟩ := hrun hmax
    rw [List.drop_zero, hrun', Except.ok.injEq, Prod.mk.injEq] at hrun
    obtain ⟨rfl, rfl⟩ := hrun
    have hstream : Covers h leaves leaves.length stream := by
      intro e
      rw [hmem, hevents]
      refine exists_congr fun b => ?_
      have hpos := Nat.zero_lt_of_lt b.start_lt_stop
      simp only [hpos, true_and]
    have hlevels : ∀ e ∈ stream, 0 ≤ e.level := by
      intro e he
      obtain ⟨b, -, rfl⟩ := (hstream e).1 he
      exact Int.natCast_nonneg b.level
    obtain ⟨kept, hlatest, hkept⟩ := exists_latest hlevels
    have hstart : Block.start ⟨0, leaves.length⟩ = leaves.length := Block.start_leaf _
    have hstop := Block.start_lt_stop ⟨0, leaves.length⟩
    rw [hstart] at hstop
    have hagrees : Agrees 0 a.slots kept := hkept.agrees hstream hleaves hslots hstart.le hstop
    have hrestored := accumulator_of_agrees hagrees hslots.getLast?_ne
      (hslots.sizeOfSlots_eq.trans_le hmax) hzero
    refine ⟨kept, hlatest, hrestored, fun hne => ?_⟩
    obtain ⟨hroot, htree⟩ := Accumulator.root_of_holds hslots hne hzero
    refine ⟨_, _, ?_, hroot, htree⟩
    rw [tree, hrestored]
    rfl

theorem restores_from_any_order_threeLeaves :
    ∃ a events kept t root,
      Accumulator.empty.appendEvents Sha256.hash Tree.threeLeaves = .ok (a, events) ∧
      latest (events.reverse ++ events) = .ok kept ∧ accumulator kept = .ok a ∧
      tree kept = .ok t ∧ a.root Sha256.hash = .ok root ∧ t.digest Sha256.hash = root := by
  obtain ⟨htakes, hrestores⟩ := restores_from_any_order Sha256.hash Tree.isDigest_threeLeaves
  obtain ⟨a, events, hrun⟩ := htakes (by decide)
  have hslots : a.slots = Ledger.threePartials Sha256.hash := by
    obtain ⟨events', hrun'⟩ : ∃ events', Accumulator.empty.appendEvents Sha256.hash Tree.threeLeaves
        = .ok (⟨Ledger.threePartials Sha256.hash⟩, events') := ⟨_, rfl⟩
    rw [hrun', Except.ok.injEq, Prod.mk.injEq] at hrun
    rw [← hrun.1]
  have hzero : some zeroDigest ∉ a.slots := hslots ▸ Ledger.zeroDigest_not_mem_threePartials
  obtain ⟨kept, hlatest, hrestored, htree⟩ :=
    hrestores a events hrun hzero (events.reverse ++ events) (by simp)
  obtain ⟨t, root, ht, hroot, hdigest⟩ := htree (by decide)
  exact ⟨a, events, kept, t, root, hrun, hlatest, hrestored, ht, hroot, hdigest⟩

end Replay

end MerkleLog

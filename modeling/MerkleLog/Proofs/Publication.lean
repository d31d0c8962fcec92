import Mathlib.Data.List.Nodup
import MerkleLog.Proofs.Document.Store
import MerkleLog.Proofs.Ledger

/-!
# What a ledger publishes

A fresh ledger announces every complete node of its log once: the append that brings the size to
`m` announces one node at each level up to the lowest one bit of `m`, and nothing announced before
has the same address.  So the index holds exactly the complete nodes, each event has a place of its
own in it, and the number of events follows from the bits of the size: an append frees one slot for
every parent that it announces and takes one, so that events and taken slots together grow by two.
-/

namespace MerkleLog

/-! ## The index -/

namespace Store

/-- Events at new addresses that all differ each take a place of their own in the index. -/
lemma size_index (nodes : Std.HashMap Address Bytes) {events : List Event}
    (hnew : ∀ e ∈ events, e.address ∉ nodes) (hdistinct : (events.map Event.address).Nodup) :
    (index nodes events).size = nodes.size + events.length := by
  induction events generalizing nodes with
  | nil => rfl
  | cons e events ih =>
    rw [List.forall_mem_cons] at hnew
    rw [List.map_cons, List.nodup_cons] at hdistinct
    have hrest : ∀ e' ∈ events, e'.address ∉ nodes.insert e.address e.hash := by
      intro e' he' hmem
      rcases Std.HashMap.mem_insert.1 hmem with hsame | hmem
      · rw [beq_iff_eq] at hsame
        exact hdistinct.1 (hsame ▸ List.mem_map_of_mem he')
      · exact hnew.2 e' he' hmem
    rw [index, List.foldl_cons, ← index, ih _ hrest hdistinct.2, Std.HashMap.size_insert,
      if_neg hnew.1, List.length_cons]
    omega

end Store

/-! ## The lowest one bit -/

/-- The highest power of two that divides a number is its lowest one bit. -/
lemma testBit_of_dvd {rise m : Nat} (hdvd : 2 ^ rise ∣ m) (hndvd : ¬2 ^ (rise + 1) ∣ m) :
    m.testBit rise = true ∧ ∀ k < rise, m.testBit k = false := by
  obtain ⟨q, rfl⟩ := hdvd
  have hodd : q % 2 = 1 := by
    by_contra heven
    refine hndvd ?_
    rw [Nat.pow_succ]
    exact Nat.mul_dvd_mul_left _ (Nat.dvd_of_mod_eq_zero (by omega))
  constructor
  · rw [Nat.testBit_two_pow_mul]
    simp [hodd]
  · intro k hk
    rw [Nat.testBit_two_pow_mul, decide_eq_false (by omega), Bool.false_and]

namespace Ledger

variable {h : Hash} {leaves : List Bytes} {n : Nat} {l : Ledger}

/-! ## Appends -/

/-- A ledger that has announced the nodes which the first `n` leaves complete, each of them once. -/
structure Publishes (h : Hash) (leaves : List Bytes) (n : Nat) (l : Ledger) : Prop
    extends Records h leaves n l where
  distinct : (l.store.events.toList.map Event.address).Nodup
  announced : ∀ e ∈ l.store.events.toList, e.sizeAfter ≤ n
  indexed : l.store.nodes = Store.index ∅ l.store.events.toList
  counted : l.store.events.size + Accumulator.occupied l.accumulator.slots = 2 * n
  sizes : l.recordsHeads = true →
    l.store.heads.map (·.1) = (List.range n).map fun k => ((k + 1 : Nat) : Int)

lemma publishes_empty (recordsHeads : Bool) : Publishes h leaves 0 (empty recordsHeads) where
  toRecords := records_empty recordsHeads
  distinct := List.nodup_nil
  announced := nofun
  indexed := rfl
  counted := rfl
  sizes _ := rfl

/-- The events of an append have different addresses. -/
lemma nodup_address_completed (h : Hash) (leaves : List Bytes) (rise size : Nat) :
    (((Accumulator.completed rise size).map (Accumulator.eventOf h leaves)).map
      Event.address).Nodup := by
  rw [Accumulator.completed, List.map_map, List.map_map]
  refine List.Nodup.map (fun level level' heq => ?_) List.nodup_range
  have hlevel : (level : Int) = level' := congrArg Address.level heq
  exact_mod_cast hlevel

/-- An append announces, at each level up to the lowest one bit of the new size, one node of that
size. -/
lemma level_sizeAfter_completed (h : Hash) (leaves : List Bytes) {rise size : Nat}
    (hsize : 0 < size) (hdvd : 2 ^ rise ∣ size) :
    ((Accumulator.completed rise size).map (Accumulator.eventOf h leaves)).map
        (fun e => (e.level, e.sizeAfter))
      = (List.range (rise + 1)).map fun k : Nat => ((k : Int), (size : Int)) := by
  rw [Accumulator.completed, List.map_map, List.map_map]
  refine List.map_congr_left fun k hk => ?_
  have hdvd' : 2 ^ k ∣ size :=
    (Nat.pow_dvd_pow 2 (Nat.le_of_lt_succ (List.mem_range.1 hk))).trans hdvd
  simp only [Function.comp_apply, Accumulator.eventOf, Block.stop_endingAt hdvd' hsize]
  rfl

lemma sizeAfter_of_mem_completed (h : Hash) (leaves : List Bytes) {rise size : Nat}
    (hsize : 0 < size) (hdvd : 2 ^ rise ∣ size) {e : Event}
    (he : e ∈ (Accumulator.completed rise size).map (Accumulator.eventOf h leaves)) :
    e.sizeAfter = size := by
  have hmem := List.mem_map_of_mem (f := fun e => (e.level, e.sizeAfter)) he
  rw [level_sizeAfter_completed h leaves hsize hdvd] at hmem
  obtain ⟨k, -, hk⟩ := List.mem_map.1 hmem
  exact (congrArg Prod.snd hk).symm

/-- Events of a new size have addresses that no earlier event has. -/
lemma Publishes.nodup_append (hl : Publishes h leaves n l) {events : List Event}
    (hdistinct : (events.map Event.address).Nodup)
    (hsizes : ∀ e ∈ events, e.sizeAfter = (n + 1 : Nat)) :
    ((l.store.events.toList ++ events).map Event.address).Nodup := by
  rw [List.map_append, List.nodup_append]
  refine ⟨hl.distinct, hdistinct, fun a ha b hb hab => ?_⟩
  obtain ⟨e, he, rfl⟩ := List.mem_map.1 ha
  obtain ⟨e', he', rfl⟩ := List.mem_map.1 hb
  have hold := hl.announced e he
  have hnew := hsizes e' he'
  have hleaf := congrArg Address.leaf hab
  simp only [Event.address] at hleaf
  omega

/-- The head of a new size comes after those of all sizes before it. -/
lemma Publishes.map_fst_recordHead (hl : Publishes h leaves n l) (hheads : l.recordsHeads = true)
    (events : List Event) (root : Bytes) :
    ((l.store.extend events).recordHead (n + 1 : Nat) root).heads.map (·.1)
      = (List.range (n + 1)).map fun k => ((k + 1 : Nat) : Int) := by
  have hbelow : ∀ m ∈ l.store.heads, m.1 < (n + 1 : Nat) := by
    intro m hm
    have hmem := List.mem_map_of_mem (f := Prod.fst) hm
    rw [hl.sizes hheads] at hmem
    obtain ⟨k, hk, hm⟩ := List.mem_map.1 hmem
    have hlt := List.mem_range.1 hk
    omega
  rw [Store.recordHead]
  dsimp only
  rw [Store.extend, Heads.insert_of_lt hbelow, List.map_append, hl.sizes hheads, List.range_succ,
    List.map_append]
  rfl

/-- What an append of the next leaf adds to the events and to the heads. -/
lemma Publishes.append (hl : Publishes h leaves n l) (hn : n < leaves.length)
    (hleaf : isDigest leaves[n]) (hmax : n < maxWord) :
    ∃ next events rise, l.append h leaves[n] = .ok next ∧ Publishes h leaves (n + 1) next ∧
      next.recordsHeads = l.recordsHeads ∧
      l.accumulator.append h leaves[n] = .ok (next.accumulator, events) ∧
      next.store.events = l.store.events ++ events.toArray ∧
      (n + 1).testBit rise = true ∧ (∀ k < rise, (n + 1).testBit k = false) ∧
      events.map (fun e => (e.level, e.sizeAfter))
        = (List.range (rise + 1)).map fun k : Nat => ((k : Int), ((n + 1 : Nat) : Int)) := by
  obtain ⟨next, hnext, hrecords, hheads⟩ := hl.toRecords.append hn hleaf hmax
  obtain ⟨a, rise, root, hstep, hslots, hdvd, hndvd, -, happend⟩ :=
    hl.toRecords.exists_append hn hleaf hmax
  obtain ⟨hbit, hbelow⟩ := testBit_of_dvd hdvd hndvd
  have hlevels := level_sizeAfter_completed h leaves (Nat.succ_pos n) hdvd
  have hdistinct := nodup_address_completed h leaves rise (n + 1)
  have hsizes := fun e => sizeAfter_of_mem_completed h leaves (Nat.succ_pos n) hdvd (e := e)
  -- from here on, all that matters of the events is listed
  generalize (Accumulator.completed rise (n + 1)).map (Accumulator.eventOf h leaves) = events
    at hstep happend hlevels hdistinct hsizes
  obtain rfl := Except.ok.inj (hnext.symm.trans happend)
  have hstore : (if l.recordsHeads then (l.store.extend events).recordHead (n + 1 : Nat) root
      else l.store.extend events).events = l.store.events ++ events.toArray := by
    split <;> rfl
  have hlist : (l.store.events ++ events.toArray).toList = l.store.events.toList ++ events := by
    simp
  refine ⟨_, events, rise, hnext, ⟨hrecords, ?_, ?_, ?_, ?_, ?_⟩, hheads, hstep, hstore, hbit,
    hbelow, hlevels⟩
  · rw [hstore, hlist]
    exact hl.nodup_append hdistinct hsizes
  · rw [hstore, hlist, List.forall_mem_append]
    refine ⟨fun e he => ?_, fun e he => (hsizes e he).le⟩
    have hold := hl.announced e he
    omega
  · rw [hstore, hlist, Store.index_append, ← hl.indexed]
    dsimp only
    split <;> rfl
  · have hcounted := hl.counted
    have hfull : l.accumulator.size < maxWord := hl.slots.sizeOfSlots_eq.trans_lt hmax
    have hgrown := Accumulator.length_append_add_occupied hleaf hfull hstep
    have hsize : (l.store.events ++ events.toArray).size = l.store.events.size + events.length := by
      simp
    rw [hstore, hsize]
    dsimp only
    omega
  · intro hrecord
    have hrecord' : l.recordsHeads = true := hrecord
    dsimp only
    rw [if_pos hrecord']
    exact hl.map_fst_recordHead hrecord' events root

/-- A fresh ledger that takes any number of leaves from the first. -/
lemma appendAll_publishes (recordsHeads : Bool) (hleaves : ∀ d ∈ leaves, isDigest d)
    (hmax : leaves.length ≤ maxWord) (hn : n ≤ leaves.length) :
    ∃ l, (empty recordsHeads).appendAll h (leaves.take n) = .ok l ∧ Publishes h leaves n l ∧
      l.recordsHeads = recordsHeads := by
  induction n with
  | zero => exact ⟨empty recordsHeads, rfl, publishes_empty recordsHeads, rfl⟩
  | succ n ih =>
    obtain ⟨l, hrun, hl, hheads⟩ := ih (by omega)
    have hleaf := hleaves _ (List.getElem_mem hn)
    obtain ⟨next, -, -, hnext, hpublishes, hheads', -⟩ := hl.append hn hleaf (by omega)
    exact ⟨next, appendAll_take_succ hn hrun hnext, hpublishes, hheads'.trans hheads⟩

/-! ## The store after all leaves -/

/-- What a lookup finds at an address: the digest of the complete node there, if there is one. -/
lemma Publishes.lookup (hl : Publishes h leaves leaves.length l) {addresses : List Address}
    (hfits : ∀ a ∈ addresses, a.fits) :
    ∃ found, l.store.lookup addresses = .ok found ∧ ∀ level leaf : Nat,
      (⟨level, leaf⟩ : Address) ∈ addresses →
        found.lookup ⟨level, leaf⟩ =
          if leaf < leaves.length ∧ 2 ^ level ∣ leaf + 1 then
            some ((Tree.ofLeaves ((leaves.drop (leaf + 1 - 2 ^ level)).take (2 ^ level))).digest h)
          else none := by
  obtain ⟨found, hfound, hget⟩ := l.store.lookup_of_fits hfits
  refine ⟨found, hfound, fun level leaf hmem => ?_⟩
  rw [hget, if_pos hmem]
  split
  case isTrue hnode =>
    obtain ⟨hleaf, hdvd⟩ := hnode
    have hstop := Block.stop_endingAt hdvd (Nat.succ_pos leaf)
    have hstart := (Block.endingAt level (leaf + 1)).stop_eq
    rw [hstop] at hstart
    have hslice : leaf + 1 - 2 ^ level = (Block.endingAt level (leaf + 1)).start :=
      Nat.sub_eq_of_eq_add hstart
    rw [hslice]
    refine (hl.nodes _ _).2 ⟨Block.endingAt level (leaf + 1), by omega, ?_,
      Block.digest_eq_ofLeaves (by omega)⟩
    rw [Block.address_eq, hstop, Address.mk.injEq]
    exact ⟨rfl, by omega⟩
  case isFalse hnone =>
    rw [Option.eq_none_iff_forall_ne_some]
    intro d hd
    obtain ⟨b, hstop, haddress, -⟩ := (hl.nodes _ _).1 hd
    rw [Block.address_eq, Address.mk.injEq] at haddress
    obtain ⟨hlevel, hleaf⟩ := haddress
    obtain rfl : b.level = level := by exact_mod_cast hlevel
    obtain hstop' : b.stop = leaf + 1 := by omega
    exact hnone ⟨by omega, hstop' ▸ b.two_pow_dvd_stop⟩

/-- A fresh ledger that records heads takes as many leaves as a log may have.  Afterwards a lookup
finds the complete nodes of the log and nothing else, each with the digest of the smallest tree with
its leaves; each append has announced one node at every level up to the lowest one bit of its size;
no two events share an address, so that their number, and that of the nodes, is twice the number of
leaves less the number of its one bits; and a head is recorded for every size. -/
theorem publishes_completed_nodes (h : Hash) (hleaves : ∀ d ∈ leaves, isDigest d) :
    (leaves.length ≤ maxWord →
      ∃ l, (ofStore .empty true >>= fun l => l.appendAll h leaves) = .ok l) ∧
    ∀ l, (ofStore .empty true >>= fun l => l.appendAll h leaves) = .ok l →
      (∀ addresses : List Address, (∀ a ∈ addresses, a.fits) →
        ∃ found, l.store.lookup addresses = .ok found ∧ ∀ level leaf : Nat,
          (⟨level, leaf⟩ : Address) ∈ addresses →
            found.lookup ⟨level, leaf⟩ =
              if leaf < leaves.length ∧ 2 ^ level ∣ leaf + 1 then
                some ((Tree.ofLeaves
                  ((leaves.drop (leaf + 1 - 2 ^ level)).take (2 ^ level))).digest h)
              else none) ∧
      (∀ (m : Nat) (hm : m < leaves.length), ∃ before after events rise,
        (ofStore .empty true >>= fun l => l.appendAll h (leaves.take m)) = .ok before ∧
        before.append h leaves[m] = .ok after ∧
        before.accumulator.append h leaves[m] = .ok (after.accumulator, events) ∧
        after.store.events = before.store.events ++ events.toArray ∧
        (m + 1).testBit rise = true ∧ (∀ k < rise, (m + 1).testBit k = false) ∧
        events.map (fun e => (e.level, e.sizeAfter))
          = (List.range (rise + 1)).map fun k : Nat => ((k : Int), ((m + 1 : Nat) : Int))) ∧
      (l.store.events.toList.map Event.address).Nodup ∧
      l.store.size = l.store.events.size ∧
      l.store.events.size = 2 * leaves.length - leaves.length.bits.count true ∧
      l.store.heads.map (·.1) = (List.range leaves.length).map fun k => ((k + 1 : Nat) : Int) := by
  rw [ofStore_empty]
  simp only [ok_bind]
  refine ⟨fun hmax => ?_, fun l hrun => ?_⟩
  · obtain ⟨l, hrun, -⟩ := appendAll_records (h := h) true hleaves hmax
    exact ⟨l, hrun⟩
  · have hmax := length_le_of_appendAll hleaves hrun
    obtain ⟨l', hrun', hl, hheads⟩ := appendAll_publishes (h := h) true hleaves hmax le_rfl
    rw [List.take_length] at hrun'
    obtain rfl : l = l' := Except.ok.inj (hrun.symm.trans hrun')
    refine ⟨fun addresses => hl.lookup, fun m hm => ?_, hl.distinct, ?_, ?_, hl.sizes hheads⟩
    · obtain ⟨before, hbefore, hpublishes, -⟩ :=
        appendAll_publishes (h := h) true hleaves hmax hm.le
      have hleaf := hleaves _ (List.getElem_mem hm)
      obtain ⟨after, events, rise, hafter, -, -, hstep, hevents, hbits⟩ :=
        hpublishes.append hm hleaf (by omega)
      exact ⟨before, after, events, rise, hbefore, hafter, hstep, hevents, hbits⟩
    · have hsize := Store.size_index ∅ (fun e _ => Std.HashMap.not_mem_empty)
        hl.distinct
      rw [← hl.indexed, Std.HashMap.size_empty, Nat.zero_add, Array.length_toList] at hsize
      exact hsize
    · have hcounted := hl.counted
      rw [hl.slots.occupied_eq] at hcounted
      omega

theorem publishes_completed_nodes_threeLeaves :
    ∃ l found,
      (ofStore .empty true >>= fun l => l.appendAll Sha256.hash Tree.threeLeaves) = .ok l ∧
      l.store.lookup [⟨1, 1⟩, ⟨1, 2⟩] = .ok found ∧
      found.lookup ⟨1, 1⟩
        = some ((Tree.ofLeaves (Tree.threeLeaves.take 2)).digest Sha256.hash) ∧
      found.lookup ⟨1, 2⟩ = none ∧
      l.store.size = 4 ∧ l.store.events.size = 4 ∧ l.store.heads.map (·.1) = [1, 2, 3] := by
  obtain ⟨htakes, hholds⟩ := publishes_completed_nodes Sha256.hash Tree.isDigest_threeLeaves
  obtain ⟨l, hrun⟩ := htakes (by decide)
  obtain ⟨hlookup, -, -, hsize, hevents, hheads⟩ := hholds l hrun
  obtain ⟨found, hfound, hget⟩ := hlookup [⟨1, 1⟩, ⟨1, 2⟩] (by decide)
  have hcount : 2 * Tree.threeLeaves.length - Tree.threeLeaves.length.bits.count true = 4 := by
    decide
  have hcomplete := hget 1 1 (by decide)
  have hpartial := hget 1 2 (by decide)
  rw [if_pos (by decide)] at hcomplete
  rw [if_neg (by decide)] at hpartial
  exact ⟨l, found, hrun, hfound, hcomplete, hpartial, hsize.trans (hevents.trans hcount),
    hevents.trans hcount, hheads⟩

end Ledger

end MerkleLog

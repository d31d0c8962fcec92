import MerkleLog.Hash.Sha256
import MerkleLog.Ledger
import MerkleLog.Proofs.Root
import MerkleLog.Proofs.Store

/-!
# What a ledger has recorded

After `n` appends to a fresh ledger its accumulator holds the complete blocks of the first `n`
leaves, its index holds exactly the blocks that stop at or before `n`, and the roots recorded are
those of all sizes up to `n`.  Each append keeps this up.
-/

namespace MerkleLog

namespace Block

/-- A block has a key if its last leaf is within the reach of eight bytes. -/
lemma fits_address_iff {b : Block} : b.address.fits = true ↔ b.stop ≤ maxWord + 1 := by
  have hpos := Nat.zero_lt_of_lt b.start_lt_stop
  have hpow := Nat.le_of_dvd hpos b.two_pow_dvd_stop
  have hlevel := Nat.lt_two_pow_self (n := b.level)
  rw [address_eq, Address.fits_iff]
  dsimp only
  omega

/-- A block that stops within the reach of a log has a key. -/
lemma fits_address {b : Block} (hstop : b.stop ≤ maxWord) : b.address.fits :=
  fits_address_iff.2 (hstop.trans (Nat.le_succ _))

end Block

namespace Ledger

/-- A ledger that has taken the first `n` of some leaves, from none on. -/
structure Records (h : Hash) (leaves : List Bytes) (n : Nat) (l : Ledger) : Prop where
  slots : Accumulator.Holds h leaves 0 n l.accumulator.slots
  nodes : ∀ a d, l.store.nodes[a]? = some d ↔
    ∃ b : Block, b.stop ≤ n ∧ b.address = a ∧ b.digest h leaves = d
  heads : ∀ m root, l.store.head? m = some root ↔
    l.recordsHeads = true ∧ ∃ k : Nat, m = k ∧ 0 < k ∧ k ≤ n ∧
      ∃ a : Accumulator, Accumulator.Holds h leaves 0 k a.slots ∧ a.root h = .ok root

variable {h : Hash} {leaves : List Bytes} {n : Nat} {l : Ledger}

lemma records_empty (recordsHeads : Bool) : Records h leaves 0 (empty recordsHeads) where
  slots := .nil 0
  nodes a d := by
    simp only [empty, Store.empty, Std.HashMap.getElem?_empty, false_iff, reduceCtorEq]
    rintro ⟨b, hstop, -⟩
    exact absurd b.start_lt_stop (by omega)
  heads m root := by
    simp only [empty, Store.empty, Store.head?, Heads.get?, List.lookup_nil, false_iff,
      reduceCtorEq]
    rintro ⟨-, k, -, hpos, hk, -⟩
    omega

/-- The events of an append are indexed as the blocks that it completes. -/
lemma getElem?_index_completed {rise : Nat} {nodes : Std.HashMap Address Bytes}
    (hnodes : ∀ a d, nodes[a]? = some d ↔
      ∃ b : Block, b.stop ≤ n ∧ b.address = a ∧ b.digest h leaves = d)
    (hdvd : 2 ^ rise ∣ n + 1) (hndvd : ¬2 ^ (rise + 1) ∣ n + 1) (a : Address) (d : Bytes) :
    (Store.index nodes ((Accumulator.completed rise (n + 1)).map
        (Accumulator.eventOf h leaves)))[a]? = some d ↔
      ∃ b : Block, b.stop ≤ n + 1 ∧ b.address = a ∧ b.digest h leaves = d := by
  have hmem : ∀ b, b ∈ Accumulator.completed rise (n + 1) ↔ b.stop = n + 1 :=
    fun b => Accumulator.mem_completed (Nat.succ_pos n) hdvd hndvd
  rw [Store.getElem?_index]
  cases hfind : ((Accumulator.completed rise (n + 1)).map
      (Accumulator.eventOf h leaves)).reverse.find? fun e => e.address = a with
  | some e =>
    -- the address is that of a block completed by this append
    obtain ⟨b, hb, rfl⟩ : ∃ b ∈ Accumulator.completed rise (n + 1),
        Accumulator.eventOf h leaves b = e := by
      simpa using List.mem_of_find?_eq_some hfind
    have hfound := List.find?_some hfind
    have haddress : b.address = a := of_decide_eq_true hfound
    constructor
    · rintro hd
      exact ⟨b, ((hmem b).1 hb).le, haddress, Option.some.inj hd⟩
    · rintro ⟨c, -, hc, rfl⟩
      obtain rfl := Block.address_injective (haddress.trans hc.symm)
      rfl
  | none =>
    rw [Option.map_none, Option.none_or, hnodes]
    refine exists_congr fun b => and_congr_left fun ⟨haddress, _⟩ => ?_
    have hnot : b.stop ≠ n + 1 := by
      intro hstop
      refine (List.find?_eq_none.1 hfind) (Accumulator.eventOf h leaves b) ?_ ?_
      · simpa using ⟨b, (hmem b).2 hstop, rfl⟩
      · exact decide_eq_true haddress
    omega

/-- An append whose events have keys publishes them, and the root if it is to. -/
lemma append_eq {leaf root : Bytes} {a : Accumulator} {events : List Event}
    (hstep : l.accumulator.append h leaf = .ok (a, events))
    (hfits : ∀ e ∈ events, e.address.fits) (hroot : a.root h = .ok root) :
    l.append h leaf = .ok ⟨if l.recordsHeads then (l.store.extend events).recordHead a.size root
      else l.store.extend events, a, l.recordsHeads⟩ := by
  rw [append, hstep, ok_bind]
  dsimp only
  rw [Store.record_of_fits _ hfits, ok_bind]
  cases hheads : l.recordsHeads with
  | true => rw [if_pos rfl, if_pos rfl, hroot]; rfl
  | false => rfl

/-- With the root over the next leaf recorded, the roots of all sizes up to it are. -/
lemma Records.head?_recordHead (hl : Records h leaves n l) (hheads : l.recordsHeads = true)
    {a : Accumulator} (hslots : Accumulator.Holds h leaves 0 (n + 1) a.slots) {root : Bytes}
    (hroot : a.root h = .ok root) (events : List Event) (m : Int) (r : Bytes) :
    ((l.store.extend events).recordHead (n + 1 : Nat) root).head? m = some r ↔
      l.recordsHeads = true ∧ ∃ k : Nat, m = k ∧ 0 < k ∧ k ≤ n + 1 ∧
        ∃ a : Accumulator, Accumulator.Holds h leaves 0 k a.slots ∧ a.root h = .ok r := by
  rw [Store.head?_recordHead]
  by_cases hm : m = (n + 1 : Nat)
  · rw [if_pos hm, Option.some_inj]
    constructor
    · rintro rfl
      exact ⟨hheads, n + 1, hm, Nat.succ_pos n, le_rfl, a, hslots, hroot⟩
    · rintro ⟨-, k, hk, -, -, ⟨slots⟩, hslots', hroot'⟩
      obtain rfl : k = n + 1 := by omega
      obtain rfl := hslots.unique hslots'
      exact Except.ok.inj (hroot.symm.trans hroot')
  · rw [if_neg hm]
    refine (hl.heads m r).trans (and_congr_right fun _ => exists_congr fun k => ?_)
    refine and_congr_right fun hk => and_congr_right fun _ => and_congr_left fun _ => ?_
    omega

/-- Appending the next leaf to a ledger publishes the blocks that the append completes, and the new
root. -/
lemma Records.exists_append (hl : Records h leaves n l) (hn : n < leaves.length)
    (hleaf : isDigest leaves[n]) (hmax : n < maxWord) :
    ∃ a rise root,
      l.accumulator.append h leaves[n]
        = .ok (a, (Accumulator.completed rise (n + 1)).map (Accumulator.eventOf h leaves)) ∧
      Accumulator.Holds h leaves 0 (n + 1) a.slots ∧
      2 ^ rise ∣ n + 1 ∧ ¬2 ^ (rise + 1) ∣ n + 1 ∧ a.root h = .ok root ∧
      l.append h leaves[n] = .ok ⟨
        if l.recordsHeads then
          (l.store.extend ((Accumulator.completed rise (n + 1)).map
            (Accumulator.eventOf h leaves))).recordHead (n + 1 : Nat) root
        else l.store.extend ((Accumulator.completed rise (n + 1)).map
          (Accumulator.eventOf h leaves)),
        a, l.recordsHeads⟩ := by
  obtain ⟨a, rise, hstep, hslots, hdvd, hndvd⟩ :=
    Accumulator.append_of_holds hl.slots hn hleaf hmax
  have hsize : a.size = n + 1 := hslots.sizeOfSlots_eq
  obtain ⟨root, hroot⟩ := Accumulator.exists_root (h := h) (a := a) (by omega)
  have hfits : ∀ e ∈ (Accumulator.completed rise (n + 1)).map (Accumulator.eventOf h leaves),
      e.address.fits := by
    intro e he
    obtain ⟨b, hb, rfl⟩ := List.mem_map.1 he
    rw [Accumulator.address_eventOf]
    refine Block.fits_address ?_
    rw [(Accumulator.mem_completed (Nat.succ_pos n) hdvd hndvd).1 hb]
    exact hmax
  refine ⟨a, rise, root, hstep, hslots, hdvd, hndvd, hroot, ?_⟩
  rw [append_eq hstep hfits hroot, hsize]

/-- Appending the next leaf to a ledger succeeds and records what the append completes. -/
lemma Records.append (hl : Records h leaves n l) (hn : n < leaves.length)
    (hleaf : isDigest leaves[n]) (hmax : n < maxWord) :
    ∃ next, l.append h leaves[n] = .ok next ∧ Records h leaves (n + 1) next ∧
      next.recordsHeads = l.recordsHeads := by
  obtain ⟨a, rise, root, -, hslots, hdvd, hndvd, hroot, happend⟩ := hl.exists_append hn hleaf hmax
  have hnodes := getElem?_index_completed hl.nodes hdvd hndvd
  refine ⟨_, happend, ⟨hslots, fun a d => ?_, fun m r => ?_⟩, rfl⟩
  · rw [← hnodes]
    dsimp only
    split <;> rfl
  · dsimp only
    by_cases hheads : l.recordsHeads = true
    · rw [if_pos hheads]
      exact hl.head?_recordHead hheads hslots hroot _ m r
    · rw [if_neg hheads]
      refine (hl.heads m r).trans ?_
      simp only [hheads, false_and, Bool.false_eq_true]

/-- Taking one leaf more is one append more. -/
lemma appendAll_take_succ {start next : Ledger} (hn : n < leaves.length)
    (hrun : start.appendAll h (leaves.take n) = .ok l) (hnext : l.append h leaves[n] = .ok next) :
    start.appendAll h (leaves.take (n + 1)) = .ok next := by
  rw [appendAll] at hrun ⊢
  rw [List.take_succ_eq_append_getElem hn, List.foldlM_append, hrun, ok_bind, List.foldlM_cons,
    hnext]
  rfl

/-- A fresh ledger that takes any number of leaves from the first. -/
lemma appendAll_take (recordsHeads : Bool) (hleaves : ∀ d ∈ leaves, isDigest d)
    (hmax : leaves.length ≤ maxWord) (hn : n ≤ leaves.length) :
    ∃ l, (empty recordsHeads).appendAll h (leaves.take n) = .ok l ∧ Records h leaves n l ∧
      l.recordsHeads = recordsHeads := by
  induction n with
  | zero => exact ⟨empty recordsHeads, rfl, records_empty recordsHeads, rfl⟩
  | succ n ih =>
    obtain ⟨l, hrun, hl, hheads⟩ := ih (by omega)
    have hleaf := hleaves _ (List.getElem_mem hn)
    obtain ⟨next, hnext, hrecords, hheads'⟩ := hl.append hn hleaf (by omega)
    exact ⟨next, appendAll_take_succ hn hrun hnext, hrecords, hheads'.trans hheads⟩

/-- A fresh ledger that takes all leaves. -/
lemma appendAll_records (recordsHeads : Bool) (hleaves : ∀ d ∈ leaves, isDigest d)
    (hmax : leaves.length ≤ maxWord) :
    ∃ l, (empty recordsHeads).appendAll h leaves = .ok l ∧ Records h leaves leaves.length l ∧
      l.recordsHeads = recordsHeads := by
  have hrun := appendAll_take (h := h) recordsHeads hleaves hmax le_rfl
  rwa [List.take_length] at hrun

/-- A ledger takes no more leaves than a log may have. -/
lemma length_le_of_appendAll {recordsHeads : Bool} (hleaves : ∀ d ∈ leaves, isDigest d)
    (hrun : (empty recordsHeads).appendAll h leaves = .ok l) : leaves.length ≤ maxWord := by
  by_contra hlength
  rw [not_le] at hlength
  have htake : (leaves.take maxWord).length = maxWord := List.length_take_of_le hlength.le
  obtain ⟨full, hfull, hrecords, -⟩ := appendAll_records (h := h) recordsHeads
    (fun d hd => hleaves d (List.mem_of_mem_take hd)) htake.le
  have hsize : full.accumulator.size = maxWord := hrecords.slots.sizeOfSlots_eq.trans htake
  rw [appendAll] at hrun hfull
  rw [← List.take_append_drop maxWord leaves, List.foldlM_append, hfull, ok_bind,
    List.drop_eq_getElem_cons hlength, List.foldlM_cons, bind_eq_ok] at hrun
  obtain ⟨next, hnext, -⟩ := hrun
  rw [append, Accumulator.append, if_neg (by simp [hleaves _ (List.getElem_mem hlength)]),
    if_pos hsize, error_bind] at hnext
  cases hnext

/-- A ledger on an empty store is the ledger without leaves. -/
lemma ofStore_empty (recordsHeads : Bool) :
    ofStore .empty recordsHeads = .ok (empty recordsHeads) := rfl

/-- As long as no partial is the zero digest, root and recorded head of every size are those of the
smallest tree with the leaves so far. -/
theorem root_agrees (h : Hash) (recordsHeads : Bool) (hleaves : ∀ d ∈ leaves, isDigest d)
    (hmax : leaves.length ≤ maxWord) :
    ∃ l, (ofStore .empty recordsHeads >>= fun l => l.appendAll h leaves) = .ok l ∧
      ∀ n, 1 ≤ n → n ≤ leaves.length →
        ∃ a l', Accumulator.empty.appendAll h (leaves.take n) = .ok a ∧
          (ofStore .empty recordsHeads >>= fun l => l.appendAll h (leaves.take n)) = .ok l' ∧
          l'.accumulator = a ∧
          (some zeroDigest ∉ a.slots →
            a.root h = .ok ((Tree.ofLeaves (leaves.take n)).digest h) ∧
            (Tree.ofPartials a.slots).digest h = (Tree.ofLeaves (leaves.take n)).digest h ∧
            (recordsHeads = true →
              l.store.head? n = some ((Tree.ofLeaves (leaves.take n)).digest h))) := by
  rw [ofStore_empty, ok_bind]
  obtain ⟨l, hrun, hl, hheads⟩ := appendAll_records (h := h) recordsHeads hleaves hmax
  refine ⟨l, hrun, fun n hpos hn => ?_⟩
  obtain ⟨a, ha, hslots⟩ := Accumulator.appendAll_take (h := h) hleaves hmax hn
  obtain ⟨l', hl', hrecords, -⟩ := appendAll_take (h := h) recordsHeads hleaves hmax hn
  refine ⟨a, l', ha, hl', ?_, fun hzero => ?_⟩
  · exact congrArg Accumulator.mk (hrecords.slots.unique hslots)
  · have hlength : (leaves.take n).length = n := List.length_take_of_le hn
    have hne : leaves.take n ≠ [] := List.ne_nil_of_length_pos (by omega)
    have hprefix : Accumulator.Holds h (leaves.take n) 0 (leaves.take n).length a.slots := by
      rw [hlength]
      exact hslots.take (Block.start_leaf n).le
    obtain ⟨hroot, htree⟩ := Accumulator.root_of_holds hprefix hne hzero
    refine ⟨hroot, htree, fun hrecord => ?_⟩
    exact (hl.heads n _).2 ⟨hheads.trans hrecord, n, rfl, hpos, hn, a, hslots, hroot⟩

/-- The partials over three leaves. -/
def threePartials (h : Hash) : List (Option Bytes) :=
  [some (List.replicate digestSize 3),
    some (h.pair (List.replicate digestSize 1) (List.replicate digestSize 2))]

lemma appendAll_threeLeaves (h : Hash) :
    Accumulator.empty.appendAll h Tree.threeLeaves = .ok ⟨threePartials h⟩ := rfl

lemma zeroDigest_not_mem_threePartials : some zeroDigest ∉ threePartials Sha256.hash := by
  have hpair : Sha256.hash.pair (List.replicate digestSize 1) (List.replicate digestSize 2)
      ≠ zeroDigest := by decide +kernel
  rw [threePartials, List.mem_cons, List.mem_singleton, Option.some_inj, Option.some_inj, not_or]
  exact ⟨by decide, hpair.symm⟩

theorem root_agrees_threeLeaves :
    Tree.threeLeaves.length ≤ maxWord ∧ ∃ l a,
      (ofStore .empty true >>= fun l => l.appendAll Sha256.hash Tree.threeLeaves) = .ok l ∧
      Accumulator.empty.appendAll Sha256.hash Tree.threeLeaves = .ok a ∧
      some zeroDigest ∉ a.slots ∧
      a.root Sha256.hash = .ok ((Tree.ofLeaves Tree.threeLeaves).digest Sha256.hash) ∧
      l.store.head? 3 = some ((Tree.ofLeaves Tree.threeLeaves).digest Sha256.hash) := by
  have hmax : Tree.threeLeaves.length ≤ maxWord := by decide
  obtain ⟨l, hrun, hsizes⟩ := root_agrees Sha256.hash true Tree.isDigest_threeLeaves hmax
  obtain ⟨a, -, ha, -, -, hagree⟩ := hsizes 3 (by decide) (by decide)
  have htake : Tree.threeLeaves.take 3 = Tree.threeLeaves := rfl
  rw [htake] at ha hagree
  have hzero : some zeroDigest ∉ a.slots := by
    obtain rfl := Except.ok.inj ((appendAll_threeLeaves _).symm.trans ha)
    exact zeroDigest_not_mem_threePartials
  obtain ⟨hroot, -, hhead⟩ := hagree hzero
  exact ⟨hmax, l, a, hrun, ha, hzero, hroot, hhead rfl⟩

end Ledger

end MerkleLog

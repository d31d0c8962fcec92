import MerkleLog.Proofs.Announcement
import MerkleLog.Proofs.Document.Store
import MerkleLog.Proofs.Ledger

/-!
# Going on from a saved text

A ledger on an empty store, or on a store that was loaded, keeps two things up at every append: its
store can be saved, and the newest events of the store agree with the slots of its accumulator.  So
the ledger on the saved and loaded store is the ledger that was saved, and what is appended to it
has the same effect.
-/

namespace MerkleLog

/-! ## Stores that grow -/

namespace Store

variable {s : Store} {events : List Event}

lemma Sound.extend (hs : s.Sound) (hevents : ∀ e ∈ events, e.Storable) :
    (s.extend events).Sound where
  events e he := by
    rw [Store.extend, Array.toList_append, List.mem_append] at he
    exact he.elim (hs.events e) (hevents e)
  nodes := by
    rw [Store.extend, Array.toList_append, index_append, hs.nodes]
  heads := hs.heads

lemma Sound.recordHead (hs : s.Sound) {size : Int} {root : Bytes} (hpos : 0 < size)
    (hsize : Text.isWritable size = true) (hroot : isDigest root = true) :
    (s.recordHead size root).Sound where
  events := hs.events
  nodes := hs.nodes
  heads := hs.heads.insert hpos hsize hroot

end Store

namespace Ledger

variable {h : Hash} {l next : Ledger} {leaf : Bytes} {leaves : List Bytes} {s : Store}

/-- A ledger whose store can be saved and whose newest events agree with its slots. -/
structure Resumable (l : Ledger) : Prop where
  store : l.store.Sound
  agrees : ∃ kept, l.store.latest = .ok kept ∧ Replay.Agrees 0 l.accumulator.slots kept
  top : l.accumulator.slots.getLast? ≠ some none
  size_le : l.size ≤ maxWord

/-- The events of an append can be saved. -/
lemma storable_append (hleaf : isDigest leaf = true) (hfull : l.size < maxWord) :
    ∀ e ∈ Accumulator.eventsFrom 0 (l.size + 1)
      (leaf :: (Accumulator.carry h l.accumulator.slots leaf).2), e.Storable := by
  intro e he
  obtain ⟨k, hk, hlevel, hsize, hhash⟩ := Accumulator.mem_eventsFrom he
  have hpow : 2 ^ k ≤ l.size + 1 :=
    (Nat.pow_le_pow_right Nat.two_pos (Nat.le_of_lt_succ hk)).trans
      (Accumulator.two_pow_length_carry_le _ _)
  -- a carry through so many levels would need more leaves than a log may have
  have hbound : k < 64 := by
    rw [← Nat.pow_lt_pow_iff_right Nat.one_lt_two]
    have : maxWord < 2 ^ 64 := by decide
    omega
  refine ⟨?_, ?_, ?_⟩
  · rw [Address.fits_iff, Event.address, hlevel, hsize]
    have : (64 : Int) ≤ maxWord := by decide
    dsimp only
    omega
  · rw [hlevel]
    omega
  · rcases List.mem_cons.1 hhash with heq | hmem
    · rw [heq, hleaf]
    · exact Accumulator.isDigest_carry _ _ _ hmem

/-- After an append, the newest events agree with the new slots. -/
lemma latest_extend {kept : List (Option Event)} (hlatest : l.store.latest = .ok kept)
    (hagrees : Replay.Agrees 0 l.accumulator.slots kept) (hleaf : isDigest leaf = true) :
    ∃ kept', (l.store.extend (Accumulator.eventsFrom 0 (l.size + 1)
        (leaf :: (Accumulator.carry h l.accumulator.slots leaf).2))).latest = .ok kept' ∧
      Replay.Agrees 0 (Accumulator.carry h l.accumulator.slots leaf).1 kept' := by
  -- no event kept is newer than the log itself
  have hold : ∀ e, some e ∈ kept → e.sizeAfter < (l.size + 1 : Nat) := by
    intro e he
    have hle := hagrees.sizeAfter_le he
    rw [Accumulator.sizeAt_zero] at hle
    have hsize : Accumulator.sizeOfSlots l.accumulator.slots = l.size := rfl
    omega
  have hsize : l.size + 1 = Accumulator.sizeAt 0 l.accumulator.slots + 2 ^ 0 := by
    rw [Accumulator.sizeAt_zero]
    rfl
  refine ⟨_, ?_, hagrees.append (h := h) hleaf hsize⟩
  rw [Store.latest, Store.extend, Array.toList_append, Replay.latest, List.foldlM_append,
    ← Replay.latest, ← Store.latest, hlatest, ok_bind]
  exact Replay.foldlM_observe [] rfl hold

/-- Appending to a ledger that can be resumed succeeds, and the ledger stays one. -/
lemma Resumable.append (hl : l.Resumable) (hleaf : isDigest leaf = true)
    (hfull : l.size < maxWord) :
    ∃ next, l.append h leaf = .ok next ∧ next.Resumable ∧ next.size = l.size + 1 ∧
      next.recordsHeads = l.recordsHeads := by
  obtain ⟨hstore, ⟨kept, hlatest, hagrees⟩, htop, -⟩ := hl
  obtain ⟨kept', hlatest', hagrees'⟩ := latest_extend (h := h) hlatest hagrees hleaf
  have hevents := storable_append (h := h) hleaf hfull
  have hstore' := hstore.extend hevents
  have hstep := Accumulator.append_eq (h := h) hleaf hfull
  obtain ⟨next, hnext⟩ :
      ∃ a : Accumulator, ⟨(Accumulator.carry h l.accumulator.slots leaf).1⟩ = a := ⟨_, rfl⟩
  have hslots : (Accumulator.carry h l.accumulator.slots leaf).1 = next.slots := by rw [← hnext]
  have hsize : next.size = l.size + 1 := by
    rw [Accumulator.size, ← hslots]
    exact Accumulator.sizeOfSlots_carry _ _
  rw [hslots] at hagrees'
  rw [hnext] at hstep
  obtain ⟨root, hroot⟩ := Accumulator.exists_root (h := h) (a := next) (by omega)
  have hdigest : isDigest root = true :=
    Accumulator.isDigest_root (fun d hd => hagrees'.isDigest_of_mem hd) hroot
  have hwritable : Text.isWritable (next.size : Int) = true := by
    have : maxWord < 2 ^ 64 := by decide
    exact Text.isWritable_of_le (by omega)
  refine ⟨_, append_eq hstep (fun e he => (hevents e he).fits) hroot,
    ⟨?_, ⟨kept', ?_, hagrees'⟩, ?_, ?_⟩, hsize, rfl⟩
  · dsimp only
    split
    · exact hstore'.recordHead (by omega) hwritable hdigest
    · exact hstore'
  · dsimp only
    split
    · exact hlatest'
    · exact hlatest'
  · exact hslots ▸ Accumulator.getLast?_carry htop leaf
  · exact hsize.trans_le hfull

/-- An append that succeeds keeps a ledger resumable. -/
lemma Resumable.of_append (hl : l.Resumable) (hstep : l.append h leaf = .ok next) :
    next.Resumable ∧ next.size = l.size + 1 ∧ next.recordsHeads = l.recordsHeads := by
  obtain ⟨⟨a, events⟩, haccumulator, -⟩ := bind_eq_ok.1 hstep
  obtain ⟨hleaf, hroom, -⟩ := Accumulator.of_append_eq_ok haccumulator
  obtain ⟨next', hnext, hresumable⟩ := hl.append (h := h) hleaf (lt_of_le_of_ne hl.size_le hroom)
  obtain rfl := Except.ok.inj (hstep.symm.trans hnext)
  exact hresumable

/-! ## Runs -/

/-- Append leaves in order, with the size after each. -/
def appendSizes (h : Hash) (l : Ledger) : List Bytes → Except Error (Ledger × List Nat)
  | [] => .ok (l, [])
  | leaf :: rest => do
    let next ← l.append h leaf
    let (last, sizes) ← next.appendSizes h rest
    return (last, next.size :: sizes)

/-- Two runs, one after the other, are one run. -/
lemma appendSizes_append {front back : List Bytes} {middle last : Ledger} {sizes sizes' : List Nat}
    (hfront : l.appendSizes h front = .ok (middle, sizes))
    (hback : middle.appendSizes h back = .ok (last, sizes')) :
    l.appendSizes h (front ++ back) = .ok (last, sizes ++ sizes') := by
  induction front generalizing l sizes with
  | nil =>
    obtain ⟨rfl, rfl⟩ := Prod.mk.inj (Except.ok.inj hfront)
    exact hback
  | cons leaf front ih =>
    rw [appendSizes, bind_eq_ok] at hfront
    obtain ⟨next, hstep, hfront⟩ := hfront
    obtain ⟨⟨reached, rest⟩, hrest, hfront⟩ := bind_eq_ok.1 hfront
    obtain ⟨rfl, rfl⟩ := Prod.mk.inj (Except.ok.inj hfront)
    rw [List.cons_append, appendSizes, hstep, ok_bind, ih hrest]
    rfl

lemma Resumable.appendSizes (hl : l.Resumable) (hleaves : ∀ d ∈ leaves, isDigest d)
    (hmax : l.size + leaves.length ≤ maxWord) :
    ∃ next sizes, l.appendSizes h leaves = .ok (next, sizes) ∧ next.Resumable ∧
      next.size = l.size + leaves.length ∧ next.recordsHeads = l.recordsHeads := by
  induction leaves generalizing l with
  | nil => exact ⟨l, [], rfl, hl, rfl, rfl⟩
  | cons leaf leaves ih =>
    rw [List.forall_mem_cons] at hleaves
    rw [List.length_cons] at hmax ⊢
    obtain ⟨middle, hstep, hmiddle, hsize, hheads⟩ := hl.append (h := h) hleaves.1 (by omega)
    obtain ⟨next, sizes, hrun, hnext, hsize', hheads'⟩ := ih hmiddle hleaves.2 (by omega)
    refine ⟨next, middle.size :: sizes, ?_, hnext, by omega, hheads'.trans hheads⟩
    rw [Ledger.appendSizes, hstep, ok_bind, hrun]
    rfl

lemma Resumable.of_appendAll (hl : l.Resumable) (hrun : l.appendAll h leaves = .ok next) :
    next.Resumable ∧ next.size = l.size + leaves.length ∧
      next.recordsHeads = l.recordsHeads := by
  induction leaves generalizing l with
  | nil =>
    obtain rfl := Except.ok.inj hrun
    exact ⟨hl, rfl, rfl⟩
  | cons leaf leaves ih =>
    rw [appendAll, List.foldlM_cons, bind_eq_ok] at hrun
    obtain ⟨middle, hstep, hrun⟩ := hrun
    obtain ⟨hmiddle, hsize, hheads⟩ := hl.of_append hstep
    obtain ⟨hnext, hsize', hheads'⟩ := ih hmiddle hrun
    rw [List.length_cons]
    exact ⟨hnext, by omega, hheads'.trans hheads⟩

/-! ## Opening a store -/

lemma of_ofStore_eq_ok {recordsHeads : Bool} (hl : ofStore s recordsHeads = .ok l) :
    l.store = s ∧ l.recordsHeads = recordsHeads := by
  obtain ⟨kept, -, hl⟩ := bind_eq_ok.1 hl
  obtain ⟨a, -, hl⟩ := bind_eq_ok.1 hl
  obtain rfl := Except.ok.inj hl
  exact ⟨rfl, rfl⟩

/-- A ledger on a store that a document can hold can be resumed. -/
lemma resumable_of_ofStore {recordsHeads : Bool} (hs : s.Sound)
    (hl : ofStore s recordsHeads = .ok l) :
    l.Resumable ∧ l.recordsHeads = recordsHeads := by
  rw [ofStore, bind_eq_ok] at hl
  obtain ⟨kept, hlatest, hl⟩ := hl
  obtain ⟨a, ha, hl⟩ := bind_eq_ok.1 hl
  obtain rfl := Except.ok.inj hl
  obtain ⟨hagrees, htop, hmax⟩ := Replay.agrees_of_accumulator ha
  exact ⟨⟨hs, ⟨kept, hlatest, hagrees⟩, htop, hmax⟩, rfl⟩

/-- The ledger on the store of a ledger that can be resumed is that ledger. -/
lemma Resumable.ofStore_eq (hl : l.Resumable) (hzero : some zeroDigest ∉ l.accumulator.slots) :
    ofStore l.store l.recordsHeads = .ok l := by
  obtain ⟨-, ⟨kept, hlatest, hagrees⟩, htop, hmax⟩ := hl
  rw [ofStore, hlatest, ok_bind, Replay.accumulator_of_agrees hagrees htop hmax hzero]
  rfl

/-- Only a ledger without zero digest in its slots is opened again as it is. -/
lemma Resumable.ofStore_eq_iff (hl : l.Resumable) :
    ofStore l.store l.recordsHeads = .ok l ↔ some zeroDigest ∉ l.accumulator.slots := by
  refine ⟨fun hopen => ?_, hl.ofStore_eq⟩
  obtain ⟨kept, -, hopen⟩ := bind_eq_ok.1 hopen
  obtain ⟨a, ha, hopen⟩ := bind_eq_ok.1 hopen
  have hsame : a = l.accumulator := congrArg accumulator (Except.ok.inj hopen)
  exact hsame ▸ Replay.zeroDigest_not_mem_of_accumulator ha

/-- Going on from a saved text is going on from where it was saved.  A ledger on an empty or a
loaded store takes some leaves; unless one of its partials is the zero digest then, its store is
saved, loaded, and opened again, and the ledger on it takes some more leaves with the same sizes,
and ends up as the same ledger, as if it had not been interrupted. -/
theorem resume_saved (h : Hash) (name : String) (recordsHeads : Bool)
    (hs : s = .empty ∨ ∃ written text, Store.load written text = .ok s)
    (hl : ofStore s recordsHeads = .ok l) {front back : List Bytes}
    (hfront : ∀ d ∈ front, isDigest d) (hback : ∀ d ∈ back, isDigest d)
    (hmax : l.size + front.length + back.length ≤ maxWord) :
    ∃ middle sizes, l.appendSizes h front = .ok (middle, sizes) ∧
      (some zeroDigest ∉ middle.accumulator.slots →
        ∃ text loaded resumed last sizes',
          middle.store.save name = .ok text ∧ Store.load name text = .ok loaded ∧
          ofStore loaded recordsHeads = .ok resumed ∧
          resumed.appendSizes h back = .ok (last, sizes') ∧
          l.appendSizes h (front ++ back) = .ok (last, sizes ++ sizes')) := by
  have hsound : s.Sound := by
    rcases hs with rfl | ⟨written, text, hload⟩
    · exact Store.sound_empty
    · exact Store.sound_of_load hload
  obtain ⟨hresumable, hheads⟩ := resumable_of_ofStore hsound hl
  obtain ⟨middle, sizes, hrun, hmiddle, hsize, hheads'⟩ :=
    hresumable.appendSizes (h := h) hfront (by omega)
  refine ⟨middle, sizes, hrun, fun hzero => ?_⟩
  obtain ⟨text, hsave, hload⟩ := Store.load_save hmiddle.store name
  have hopen := hmiddle.ofStore_eq hzero
  rw [hheads', hheads] at hopen
  obtain ⟨last, sizes', hrest, -, -, -⟩ := hmiddle.appendSizes (h := h) hback (by omega)
  exact ⟨text, middle.store, middle, last, sizes', hsave, hload, hopen, hrest,
    appendSizes_append hrun hrest⟩

/-- The slots after three leaves, and the sizes on the way there. -/
lemma appendSizes_threeLeaves (h : Hash) :
    ∃ store, (empty true).appendSizes h Tree.threeLeaves
      = .ok (⟨store, ⟨threePartials h⟩, true⟩, [1, 2, 3]) :=
  ⟨_, rfl⟩

theorem resume_saved_threeLeaves :
    ∃ middle text loaded resumed last sizes,
      (empty true).appendSizes Sha256.hash Tree.threeLeaves = .ok (middle, [1, 2, 3]) ∧
      some zeroDigest ∉ middle.accumulator.slots ∧
      middle.store.save "sha256" = .ok text ∧ Store.load "sha256" text = .ok loaded ∧
      ofStore loaded true = .ok resumed ∧
      resumed.appendSizes Sha256.hash Tree.threeLeaves = .ok (last, sizes) ∧
      (empty true).appendSizes Sha256.hash (Tree.threeLeaves ++ Tree.threeLeaves)
        = .ok (last, [1, 2, 3] ++ sizes) := by
  have hmax : (empty true).size + Tree.threeLeaves.length + Tree.threeLeaves.length ≤ maxWord := by
    decide
  obtain ⟨middle, sizes, hrun, hresume⟩ := resume_saved Sha256.hash "sha256" true (Or.inl rfl)
    (ofStore_empty true) Tree.isDigest_threeLeaves Tree.isDigest_threeLeaves hmax
  obtain ⟨store, hslots⟩ := appendSizes_threeLeaves Sha256.hash
  obtain ⟨rfl, rfl⟩ := Prod.mk.inj (Except.ok.inj (hrun.symm.trans hslots))
  have hzero := zeroDigest_not_mem_threePartials
  obtain ⟨text, loaded, resumed, last, sizes', hsave, hload, hopen, hrest, hall⟩ := hresume hzero
  exact ⟨_, text, loaded, resumed, last, sizes', hrun, hzero, hsave, hload, hopen, hrest, hall⟩

end Ledger

end MerkleLog

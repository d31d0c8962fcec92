import MerkleLog.Proofs.Document.Record

/-!
# Saving and loading a store

A store that a document can hold is saved and loaded without loss: the loaded store has the same
events, the same index and the same heads.  Every store that was loaded is such a store.
-/

namespace MerkleLog

/-! ## Heads -/

namespace Heads

variable {heads : Heads} {size : Int} {root : Bytes}

/-- Heads that a document may hold. -/
structure Storable (heads : Heads) : Prop where
  sorted : heads.Pairwise fun m n => m.1 < n.1
  sizes : ∀ m ∈ heads, 0 < m.1 ∧ Text.isWritable m.1 = true
  roots : ∀ m ∈ heads, isDigest m.2 = true

lemma storable_nil : Storable [] where
  sorted := List.Pairwise.nil
  sizes := nofun
  roots := nofun

/-- Record heads one after the other. -/
def insertAll (heads new : Heads) : Heads :=
  new.foldl (fun heads m => heads.insert m.1 m.2) heads

lemma mem_insert {m : Int × Bytes} (hm : m ∈ heads.insert size root) :
    m = (size, root) ∨ m ∈ heads := by
  induction heads with
  | nil => exact Or.inl (List.mem_singleton.1 hm)
  | cons k heads ih =>
    obtain ⟨n, r⟩ := k
    rw [insert] at hm
    split at hm
    · exact List.mem_cons.1 hm
    · split at hm
      · exact (List.mem_cons.1 hm).imp_right (List.mem_cons_of_mem _)
      · rcases List.mem_cons.1 hm with rfl | hm
        · exact Or.inr List.mem_cons_self
        · exact (ih hm).imp_right (List.mem_cons_of_mem _)

lemma pairwise_insert (hsorted : heads.Pairwise fun m n => m.1 < n.1) (size : Int) (root : Bytes) :
    (heads.insert size root).Pairwise fun m n => m.1 < n.1 := by
  induction heads with
  | nil => exact List.pairwise_singleton _ _
  | cons m heads ih =>
    obtain ⟨n, r⟩ := m
    obtain ⟨hfirst, hrest⟩ := List.pairwise_cons.1 hsorted
    rw [insert]
    split
    · rename_i hlt
      refine List.pairwise_cons.2 ⟨?_, hsorted⟩
      rw [List.forall_mem_cons]
      exact ⟨hlt, fun k hk => hlt.trans (hfirst k hk)⟩
    · split
      · rename_i hsame
        exact List.pairwise_cons.2 ⟨fun k hk => hsame ▸ hfirst k hk, hrest⟩
      · refine List.pairwise_cons.2 ⟨fun k hk => ?_, ih hrest⟩
        rcases mem_insert hk with rfl | hk
        · dsimp only
          omega
        · exact hfirst k hk

lemma Storable.insert (hheads : heads.Storable) (hpos : 0 < size)
    (hsize : Text.isWritable size = true) (hroot : isDigest root = true) :
    (heads.insert size root).Storable where
  sorted := pairwise_insert hheads.sorted size root
  sizes m hm := by
    rcases mem_insert hm with rfl | hm
    · exact ⟨hpos, hsize⟩
    · exact hheads.sizes m hm
  roots m hm := by
    rcases mem_insert hm with rfl | hm
    · exact hroot
    · exact hheads.roots m hm

/-- The head of a greater size goes to the end. -/
lemma insert_of_lt (hlt : ∀ m ∈ heads, m.1 < size) :
    heads.insert size root = heads ++ [(size, root)] := by
  induction heads with
  | nil => rfl
  | cons m heads ih =>
    obtain ⟨n, r⟩ := m
    rw [List.forall_mem_cons] at hlt
    have hn : n < size := hlt.1
    rw [insert, if_neg (by omega), if_neg (by omega), ih hlt.2]
    rfl

/-- Heads that are in order end up as they are. -/
lemma insertAll_of_sorted {new : Heads}
    (hsorted : (heads ++ new).Pairwise fun m n => m.1 < n.1) :
    heads.insertAll new = heads ++ new := by
  induction new generalizing heads with
  | nil => rw [List.append_nil]; rfl
  | cons m new ih =>
    have hlt : ∀ k ∈ heads, k.1 < m.1 := fun k hk =>
      (List.pairwise_append.1 hsorted).2.2 k hk m List.mem_cons_self
    -- every head recorded so far has a smaller size
    have hsplit : heads ++ m :: new = heads ++ [m] ++ new := by simp
    rw [hsplit] at hsorted ⊢
    rw [insertAll, List.foldl_cons, insert_of_lt hlt]
    exact ih hsorted

end Heads

/-- The head that a record holds. -/
def HeadRecord.toHead (r : HeadRecord) : Int × Bytes := (r.size, r.root.digest)

namespace Heads

lemma storable_insertAll {heads : Heads} {records : List HeadRecord} (hheads : heads.Storable)
    (hrecords : ∀ r ∈ records, Text.isWritable r.size = true) :
    (heads.insertAll (records.map HeadRecord.toHead)).Storable := by
  induction records generalizing heads with
  | nil => exact hheads
  | cons r records ih =>
    rw [List.forall_mem_cons] at hrecords
    have hpos : (0 : Int) < r.size := by exact_mod_cast r.size_pos
    exact ih (hheads.insert hpos hrecords.1 r.root.isDigest_digest) hrecords.2

end Heads

lemma Checked.orInvalid_eq_ok {α : Type} {x : Checked α} {record : String} {a : α} :
    x.orInvalid record = .ok a ↔ x = .ok a := by
  cases x <;> simp [orInvalid]

namespace Store

variable {s : Store} {name text : String} {d : StoreDocument}

/-- A store that a document can hold. -/
structure Sound (s : Store) : Prop where
  events : ∀ e ∈ s.events.toList, e.Storable
  nodes : s.nodes = index ∅ s.events.toList
  heads : s.heads.Storable

lemma sound_empty : Sound .empty where
  events := nofun
  nodes := rfl
  heads := Heads.storable_nil

/-! ## Documents and stores -/

/-- Only events with keys are recorded without failure. -/
lemma fits_of_record {events : List Event} (hrecord : (s.record events).2 = .ok ()) :
    ∀ e ∈ events, e.address.fits = true := by
  induction events generalizing s with
  | nil => exact nofun
  | cons e events ih =>
    rw [record] at hrecord
    split at hrecord
    · cases hrecord
    · rename_i key hkey
      rw [List.forall_mem_cons]
      refine ⟨?_, ih hrecord⟩
      rw [Address.encode] at hkey
      split at hkey
      · assumption
      · cases hkey

lemma foldl_recordHead (s : Store) (records : List HeadRecord) :
    records.foldl (fun s r => s.recordHead r.size r.root.digest) s
      = ⟨s.events, s.nodes, s.heads.insertAll (records.map HeadRecord.toHead)⟩ := by
  induction records generalizing s with
  | nil => rfl
  | cons r records ih =>
    rw [List.foldl_cons, ih]
    rfl

/-- The store of a document that was written under the same algorithm. -/
def ofRecords (events : List EventRecord) (heads : List HeadRecord) : Store :=
  ⟨(events.map EventRecord.toEvent).toArray, index ∅ (events.map EventRecord.toEvent),
    Heads.insertAll [] (heads.map HeadRecord.toHead)⟩

lemma ofDocument_of_fits (hname : d.algorithm = name)
    (hfits : ∀ r ∈ d.events, r.toEvent.address.fits = true) :
    ofDocument name d = .ok (ofRecords d.events d.heads) := by
  have hrecord := record_of_fits empty (List.forall_mem_map.2 hfits)
  rw [ofDocument, if_neg (not_not.2 hname)]
  dsimp only
  rw [hrecord, ok_bind, foldl_recordHead, pure_eq_ok]
  simp only [extend, empty, Array.empty_append, ofRecords]

lemma fits_of_ofDocument (hload : ofDocument name d = .ok s) :
    d.algorithm = name ∧ ∀ r ∈ d.events, r.toEvent.address.fits = true := by
  rw [ofDocument] at hload
  by_cases hname : d.algorithm = name
  · rw [if_neg (not_not.2 hname)] at hload
    obtain ⟨⟨⟩, houtcome, -⟩ := bind_eq_ok.1 hload
    exact ⟨hname, List.forall_mem_map.1 (fits_of_record houtcome)⟩
  · rw [if_pos hname, throw_eq_error, error_bind] at hload
    cases hload

/-! ## Loading -/

lemma load_eq_ok : load name text = .ok s ↔
    ∃ d, Checked.ofText (StoreDocument.check .text) text = .ok d ∧ ofDocument name d = .ok s := by
  simp only [load, bind_eq_ok, Checked.orInvalid_eq_ok]

/-- A store that was loaded can be saved. -/
lemma sound_of_load (hload : load name text = .ok s) : s.Sound := by
  obtain ⟨d, hd, hstore⟩ := load_eq_ok.1 hload
  obtain ⟨hname, hfits⟩ := fits_of_ofDocument hstore
  obtain rfl := Except.ok.inj ((ofDocument_of_fits hname hfits).symm.trans hstore)
  have hheads := StoreDocument.isWritable_of_ofText hd
  refine ⟨fun e he => ?_, rfl, Heads.storable_insertAll Heads.storable_nil hheads⟩
  obtain ⟨r, hr, rfl⟩ := List.mem_map.1 he
  exact EventRecord.storable_toEvent (hfits r hr)

/-! ## Saving -/

lemma save_eq_ok : s.save name = .ok text ↔
    ∃ d, s.toDocument name = .ok d ∧ d.toJson.oversized? = none ∧ d.toJson.indented = text := by
  rw [save, bind_eq_ok]
  refine exists_congr fun d => and_congr_right fun _ => ?_
  dsimp only
  cases hwide : d.toJson.oversized? with
  | some n => simp
  | none => simp

lemma Sound.exists_toDocument (hs : s.Sound) (name : String) :
    ∃ d, s.toDocument name = .ok d ∧ d.algorithm = name ∧
      d.events.map EventRecord.toEvent = s.events.toList ∧
      d.heads.map HeadRecord.toHead = s.heads := by
  have hevent : ∀ e ∈ s.events.toList, ∃ r,
      (EventRecord.ofEvent e).orInvalid EventRecord.recordName = .ok r ∧ r.toEvent = e := by
    intro e he
    obtain ⟨r, hr, hback⟩ := EventRecord.exists_ofEvent (hs.events e he)
    exact ⟨r, by rw [hr]; rfl, hback⟩
  have hhead : ∀ m ∈ s.heads, ∃ r,
      (HeadRecord.ofHead m.1 m.2).orInvalid HeadRecord.recordName = .ok r ∧ r.toHead = m := by
    intro m hm
    obtain ⟨r, hr, hsize, hroot⟩ :=
      HeadRecord.exists_ofHead (hs.heads.sizes m hm).1 (hs.heads.roots m hm)
    exact ⟨r, by rw [hr]; rfl, Prod.ext hsize hroot⟩
  obtain ⟨events, hevents, hback⟩ := exists_mapM hevent
  obtain ⟨heads, hheads, hback'⟩ := exists_mapM hhead
  refine ⟨⟨name, events, heads⟩, ?_, rfl, hback, hback'⟩
  rw [toDocument, hevents, ok_bind, hheads]
  rfl

/-- A store is loaded as it was saved. -/
theorem load_save (hs : s.Sound) (name : String) :
    ∃ text, s.save name = .ok text ∧ load name text = .ok s := by
  obtain ⟨d, hd, hname, hevents, hheads⟩ := hs.exists_toDocument name
  have hfits : ∀ r ∈ d.events, r.toEvent.address.fits = true := by
    intro r hr
    refine (hs.events r.toEvent ?_).fits
    rw [← hevents]
    exact List.mem_map_of_mem hr
  have hwritable : ∀ r ∈ d.heads, Text.isWritable r.size = true := by
    intro r hr
    refine (hs.heads.sizes r.toHead ?_).2
    rw [← hheads]
    exact List.mem_map_of_mem hr
  have hplain := StoreDocument.plain_toJson ⟨hfits, hwritable⟩ 0
  refine ⟨d.toJson.indented, save_eq_ok.2 ⟨d, hd, hplain.oversized?, rfl⟩, ?_⟩
  refine load_eq_ok.2 ⟨d, StoreDocument.ofText_indented ⟨hfits, hwritable⟩, ?_⟩
  have hsorted : Heads.insertAll [] s.heads = s.heads := Heads.insertAll_of_sorted hs.heads.sorted
  rw [ofDocument_of_fits hname hfits, ofRecords, hevents, hheads, hsorted, ← hs.nodes,
    Array.toArray_toList]

end Store

end MerkleLog

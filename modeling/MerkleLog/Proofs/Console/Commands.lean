import MerkleLog.Proofs.Console.Action
import MerkleLog.Proofs.Console.Files
import MerkleLog.Proofs.Console.Markup
import MerkleLog.Proofs.Document.Proof
import MerkleLog.Proofs.Growth
import MerkleLog.Proofs.Json.LineEnds

/-!
# What the commands do

A command opens the saved store of a ledger as the ledger that was saved.  Appending lines to it has
the effect of appending their leaves to the ledger, a proof is made of each of its leaves against
each of its sizes, and a proof that was written is found valid.
-/

namespace MerkleLog

/-! ## Documents as files -/

lemma StoreDocument.whole_toJson (d : StoreDocument) : d.toJson.Whole := by
  refine .obj ?_
  simp only [List.forall_mem_cons, List.not_mem_nil, false_imp_iff, implies_true, and_true]
  refine ⟨.str _, .arr ?_, .arr ?_⟩
  · intro v hv
    obtain ⟨r, -, rfl⟩ := List.mem_map.1 hv
    refine .obj ?_
    simp only [List.forall_mem_cons, List.not_mem_nil, false_imp_iff, implies_true, and_true]
    exact ⟨.int _, .int _, .str _⟩
  · intro v hv
    obtain ⟨r, -, rfl⟩ := List.mem_map.1 hv
    refine .obj ?_
    simp only [List.forall_mem_cons, List.not_mem_nil, false_imp_iff, implies_true, and_true]
    exact ⟨.int _, .str _⟩

lemma Store.return_not_mem_save {s : Store} {name text : String} (hsave : s.save name = .ok text) :
    '\r' ∉ text.toList := by
  obtain ⟨d, -, -, rfl⟩ := save_eq_ok.1 hsave
  exact d.whole_toJson.return_not_mem_indented

namespace Console

variable {settings : Settings} {h : Hash} {files : Files} {place : Location}
  {leavesPath store out text : String} {leaves : List Bytes} {l next : Ledger}
  {lines : List (List Char)} {i n : Nat}

open Console.Action (Ends)

/-! ## Opening a store -/

/-- The store that a command finds at a path: what the text of the file stands for or, where nothing
is yet, the store without events. -/
def Finds (settings : Settings) (store : String) (files : Files) (kept : Store) : Prop :=
  (files.contains (Path.ofString store) = .ok false ∧ kept = .empty) ∨
    files.contains (Path.ofString store) = .ok true ∧ ∃ text,
      files.read (Path.ofString store) = .ok text ∧
        Store.load settings.hashAlgorithm text = .ok kept

lemma Finds.ends_loadStore {kept : Store} (hkept : Finds settings store files kept) :
    Ends (loadStore settings store) files (.ok kept) files "" := by
  obtain ⟨hcontains, rfl⟩ | ⟨hcontains, text, hread, hload⟩ := hkept
  · exact Ends.contains_bind hcontains (Ends.pure _)
  · refine Ends.contains_bind hcontains (Ends.get_bind fun s hs => ?_)
    rw [hs, hread]
    dsimp only
    rw [hload]
    exact Ends.pure _

/-- The disk on which the store of a path is that of a ledger: the saved store, or nothing yet. -/
def Stores (settings : Settings) (store : String) (files : Files) (l : Ledger) : Prop :=
  (l = .empty true ∧ ∃ place, files.resolve (Path.ofString store) = .ok (.free place)) ∨
    ∃ place text,
      files.resolve (Path.ofString store) = .ok (.found place (.file (Bytes.utf8 text))) ∧
        l.store.save settings.hashAlgorithm = .ok text

lemma Stores.writable (hstore : Stores settings store files l) :
    files.Writable (Path.ofString store) := by
  obtain ⟨-, place, hresolve⟩ | ⟨place, text, hresolve, -⟩ := hstore
  · exact ⟨_, hresolve, nofun⟩
  · exact ⟨_, hresolve, nofun⟩

/-- The text of a saved store is loaded as the store. -/
lemma Stores.finds (hstore : Stores settings store files l) (hl : l.store.Sound) :
    Finds settings store files l.store := by
  obtain ⟨rfl, place, hresolve⟩ | ⟨place, text, hresolve, hsave⟩ := hstore
  · exact Or.inl ⟨by rw [Files.contains, hresolve], rfl⟩
  · obtain ⟨text', hsave', hload⟩ := Store.load_save hl settings.hashAlgorithm
    obtain rfl := Except.ok.inj (hsave.symm.trans hsave')
    exact Or.inr ⟨by rw [Files.contains, hresolve], text,
      Files.read_eq hresolve (Store.return_not_mem_save hsave), hload⟩

/-- The accumulator of a store is that of the ledger on it. -/
lemma ends_rebuild {kept : Store} (hopen : Ledger.ofStore kept true = .ok l) :
    Ends (rebuild kept) files (.ok l.accumulator) files "" := by
  obtain ⟨newest, hlatest, hopen⟩ := bind_eq_ok.1 hopen
  obtain ⟨a, ha, hopen⟩ := bind_eq_ok.1 hopen
  obtain rfl := Except.ok.inj hopen
  exact (Ends.ofExcept hlatest).bind_silent ((Ends.ofExcept ha).bind_silent
    ((Ends.log _).bind_silent (Ends.pure _)))

/-! ## Appending lines -/

/-- The lines of a text that are not blank. -/
def filledLines (text : String) : List (List Char) :=
  (Text.lines text.toList).filter fun line => !line.all Text.isBlankOrSeparator

/-- The digest of a line. -/
def lineDigest (h : Hash) (line : List Char) : Bytes :=
  h.digest (Bytes.utf8 (String.ofList line))

lemma isDigest_lineDigest : ∀ d ∈ lines.map (lineDigest h), isDigest d = true :=
  List.forall_mem_map.2 fun _ _ => isDigest_iff.2 (h.length_digest _)

lemma forall₂_lineDigest (h : Hash) (lines : List (List Char)) :
    List.Forall₂ (fun line leaf => leafOf? h false line = some leaf) lines
      (lines.map (lineDigest h)) :=
  List.forall₂_map_right_iff.2 (List.forall₂_same.2 fun _ _ => rfl)

/-- Appending lines is appending the leaves that those stand for that are not blank. -/
lemma ends_appendLines {hex : Bool} (hleaves : List.Forall₂
      (fun line leaf => leafOf? h hex line = some leaf)
      (lines.filter fun line => !line.all Text.isBlankOrSeparator) leaves)
    (hrun : l.appendAll h leaves = .ok next) :
    Ends (appendLines h hex l lines) files (.ok next) files "" := by
  induction lines generalizing l leaves with
  | nil =>
    cases hleaves
    obtain rfl := Except.ok.inj hrun
    exact Ends.pure _
  | cons line lines ih =>
    rw [appendLines]
    by_cases hblank : line.all Text.isBlankOrSeparator
    · rw [List.filter_cons_of_neg (by simpa using hblank)] at hleaves
      rw [if_pos hblank]
      exact ih hleaves hrun
    · rw [List.filter_cons_of_pos (by simpa using hblank)] at hleaves
      cases hleaves with
      | cons hleaf hleaves =>
        rw [Ledger.appendAll, List.foldlM_cons, bind_eq_ok] at hrun
        obtain ⟨middle, hstep, hrun⟩ := hrun
        rw [if_neg hblank, hleaf]
        exact (Ends.ofExcept hstep).bind_silent (ih hleaves hrun)

lemma bracket_not_mem_toHex (bs : Bytes) : '[' ∉ bs.toHex.toList := by
  have hdigit : ∀ n < 16, '[' ≠ Nat.digitChar n := by decide
  rw [Bytes.toHex, String.toList_ofList, List.mem_flatMap]
  rintro ⟨b, -, hb⟩
  have hlow : b.toNat % 16 < 16 := Nat.mod_lt _ (by decide)
  have hhigh : b.toNat / 16 < 16 := Nat.div_lt_of_lt_mul b.toNat_lt
  simp [Bytes.hexPair, hdigit _ hlow, hdigit _ hhigh] at hb

/-- The size and the root of a log are shown. -/
lemma exists_render_size (n : Nat) (root : Bytes) :
    ∃ cs, Markup.render ("[green]Log size " ++ toString n ++ ", root " ++ root.toHex ++ "[/green]")
      = .ok cs := by
  have hsize : '[' ∉ Nat.toDigits 10 n := Text.not_mem_toDigits (by decide) n
  refine Markup.exists_render_green ("Log size " ++ toString n ++ ", root " ++ root.toHex) ?_ ?_
  · simp [Markup.greenText, Markup.green]
  · simp [hsize, bracket_not_mem_toHex]

/-- How the run ends when the store has been written: a log without leaves has no root to show. -/
def shown (next : Ledger) : Except Stop Unit :=
  if next.size = 0 then .error (.failure (.log .noRoot)) else .ok ()

lemma ends_show (h : Hash) (next : Ledger) (files : Files) :
    ∃ printed, Ends (do
      let root ← Action.ofExcept (next.root h)
      Action.say
        ("[green]Log size " ++ toString next.size ++ ", root " ++ root.toHex ++ "[/green]"))
      files (shown next) files printed := by
  rw [shown]
  split
  · rename_i hsize
    have hroot : next.root h = .error .noRoot := by
      rw [Ledger.root, Accumulator.root]
      exact if_pos hsize
    exact ⟨_, (Ends.ofExcept_error hroot).bind_error⟩
  · rename_i hsize
    obtain ⟨root, hroot⟩ := Accumulator.exists_root (h := h) (Nat.pos_of_ne_zero hsize)
    obtain ⟨cs, hcs⟩ := exists_render_size next.size root
    exact ⟨_, (Ends.ofExcept hroot).bind (Ends.say hcs)⟩

/-- Accumulating a file appends the leaves of its lines that are not blank and saves the store. -/
lemma ends_accumulate {hex : Bool} {saved : String} (hkept : Finds settings store files l.store)
    (hopen : Ledger.ofStore l.store true = .ok l)
    (hread : files.read (Path.ofString leavesPath) = .ok text)
    (hleaves : List.Forall₂ (fun line leaf => leafOf? h hex line = some leaf) (filledLines text)
      leaves)
    (hrun : l.appendAll h leaves = .ok next)
    (hsave : next.store.save settings.hashAlgorithm = .ok saved)
    (hopens : files.Opens (Path.ofString store) place) :
    ∃ printed, Ends (accumulate settings h leavesPath store hex) files (shown next)
      (files.put place (Bytes.utf8 saved)) printed := by
  obtain ⟨-, hheads⟩ := Ledger.of_ofStore_eq_ok hopen
  have hopened : (⟨l.store, l.accumulator, true⟩ : Ledger) = l := by rw [← hheads]
  obtain ⟨printed, hshow⟩ := ends_show h next (files.put place (Bytes.utf8 saved))
  refine ⟨printed, hkept.ends_loadStore.bind_silent ?_⟩
  refine (ends_rebuild hopen).bind_silent ?_
  refine (Ends.read hread).bind_silent ?_
  rw [hopened]
  refine (ends_appendLines hleaves hrun).bind_silent ?_
  refine (Ends.ofExcept hsave).bind_silent ?_
  exact (Ends.write (hopens.write_eq (Bytes.utf8 saved))).bind_silent hshow

/-- Accumulating digests of lines goes well, and the ledger grows by them. -/
lemma Stores.ends_accumulate (hstore : Stores settings store files l) (hl : l.Grown h leaves)
    (hread : files.read (Path.ofString leavesPath) = .ok text) (hfilled : filledLines text ≠ [])
    (hmax : (leaves ++ (filledLines text).map (lineDigest h)).length ≤ maxWord)
    (hzero : Ledger.Unzeroed h (leaves ++ (filledLines text).map (lineDigest h))) :
    ∃ place saved printed next, files.Opens (Path.ofString store) place ∧
      Ends (accumulate settings h leavesPath store false) files (.ok ())
        (files.put place (Bytes.utf8 saved)) printed ∧
      Stores settings store (files.put place (Bytes.utf8 saved)) next ∧
      next.Grown h (leaves ++ (filledLines text).map (lineDigest h)) := by
  have hdigests : ∀ d ∈ leaves ++ (filledLines text).map (lineDigest h), isDigest d = true := by
    intro d hd
    exact (List.mem_append.1 hd).elim (hl.digests d) (isDigest_lineDigest d)
  obtain ⟨next, hrun, hnext⟩ := hl.exists_appendAll hdigests hmax hzero
  obtain ⟨saved, hsave, -⟩ := Store.load_save hnext.resumable.store settings.hashAlgorithm
  -- the log has leaves now, and so a root
  have hsize : 0 < next.size := by
    have hcount : next.size = _ := hnext.records.slots.sizeOfSlots_eq
    have hpos := List.length_pos_iff.2 hfilled
    rw [hcount, List.length_append, List.length_map]
    omega
  have hshown : shown next = .ok () := if_neg hsize.ne'
  have hopen := hl.resumable.ofStore_eq hl.zero_not_mem
  rw [hl.recordsHeads] at hopen
  obtain ⟨place, hopens⟩ := hstore.writable.exists_opens
  obtain ⟨printed, hends⟩ := Console.ends_accumulate (hstore.finds hl.resumable.store) hopen hread
    (forall₂_lineDigest h _) hrun hsave hopens
  rw [hshown] at hends
  have hstore' : Stores settings store (files.put place (Bytes.utf8 saved)) next :=
    Or.inr ⟨place, saved, hopens.resolve_put (Bytes.utf8 saved), hsave⟩
  exact ⟨place, saved, printed, next, hopens, hends, hstore', hnext⟩

/-! ## Proving leaves -/

end Console

end MerkleLog

import MerkleLog.Proofs.Console.RoundTrip

/-!
# Accumulating all lines or none

Every step of accumulating may stop the run: opening the store, reading the lines, appending a leaf.
Each of them leaves the files as they are, and the store is written only when all lines have been
appended.  What follows the writing can stop the run in one case, a log without leaves, which has no
root to be shown.
-/

namespace MerkleLog

namespace Console

variable {settings : Settings} {h : Hash} {hex : Bool} {store leavesPath text : String}
  {files files' : Files} {kept : Store} {l next : Ledger} {args : List String}

open Console.Action (Ends Refuses refuses_or_ofExcept refuses_or_read refuses_or_write)

/-! ## The steps before the writing -/

lemma refuses_or_loadStore (settings : Settings) (store : String) (files : Files) :
    Refuses (loadStore settings store) files ∨ ∃ kept, Finds settings store files kept := by
  cases hcontains : files.contains (Path.ofString store) with
  | error cause =>
    have hends : Ends (loadStore settings store) files (.error (.failure (.file cause))) files "" :=
      Ends.get_bind fun _ hs => (Ends.onFiles_error (hs ▸ hcontains)).bind_error
    exact Or.inl (hends.refuses nofun)
  | ok found =>
    cases found with
    | false => exact Or.inr ⟨.empty, Or.inl ⟨hcontains, rfl⟩⟩
    | true =>
      cases hread : files.read (Path.ofString store) with
      | error cause =>
        refine Or.inl (Refuses.contains_bind hcontains ?_)
        refine Refuses.get_bind (fun s hs => by rw [hs, hread]) ?_
        cases cause with
        | undecodable fault => exact Refuses.say _ nofun
        | _ => exact Refuses.throw nofun
      | ok text =>
        cases hload : Store.load settings.hashAlgorithm text with
        | ok kept => exact Or.inr ⟨kept, Or.inr ⟨hcontains, text, hread, hload⟩⟩
        | error cause =>
          refine Or.inl (Refuses.contains_bind hcontains ?_)
          refine Refuses.get_bind (fun s hs => by rw [hs, hread]) ?_
          dsimp only
          rw [hload]
          exact Refuses.say _ nofun

lemma refuses_or_rebuild (kept : Store) (files : Files) :
    Refuses (rebuild kept) files ∨ ∃ l, Ledger.ofStore kept true = .ok l := by
  rcases refuses_or_ofExcept kept.latest files with href | ⟨newest, hlatest⟩
  · exact Or.inl href.bind
  · rcases refuses_or_ofExcept (Replay.accumulator newest) files with href | ⟨a, ha⟩
    · exact Or.inl (Refuses.after (Ends.ofExcept hlatest) href.bind)
    · refine Or.inr ⟨⟨kept, a, true⟩, ?_⟩
      rw [Ledger.ofStore, hlatest, ok_bind, ha]
      rfl

/-- Lines are appended only if each that is not blank stands for a leaf that can be appended. -/
lemma refuses_or_appendLines (h : Hash) (hex : Bool) (l : Ledger) (lines : List (List Char))
    (files : Files) :
    Refuses (appendLines h hex l lines) files ∨ ∃ leaves next,
      List.Forall₂ (fun line leaf => leafOf? h hex line = some leaf)
        (lines.filter fun line => !line.all Text.isBlankOrSeparator) leaves ∧
      l.appendAll h leaves = .ok next := by
  induction lines generalizing l with
  | nil => exact Or.inr ⟨[], l, .nil, rfl⟩
  | cons line lines ih =>
    rw [appendLines]
    by_cases hblank : line.all Text.isBlankOrSeparator
    · rw [List.filter_cons_of_neg (by simpa using hblank), if_pos hblank]
      exact ih l
    · rw [List.filter_cons_of_pos (by simpa using hblank), if_neg hblank]
      cases hleaf : leafOf? h hex line with
      | none => exact Or.inl (Refuses.throw (by decide))
      | some leaf =>
        rcases refuses_or_ofExcept (l.append h leaf) files with href | ⟨middle, hstep⟩
        · exact Or.inl href.bind
        · rcases ih middle with href | ⟨leaves, next, hleaves, hrun⟩
          · exact Or.inl (Refuses.after (Ends.ofExcept hstep) href)
          · refine Or.inr ⟨leaf :: leaves, next, .cons hleaf hleaves, ?_⟩
            rw [Ledger.appendAll, List.foldlM_cons, hstep]
            exact hrun

/-! ## Whole runs -/

lemma Finds.sound (hkept : Finds settings store files kept) : kept.Sound := by
  rcases hkept with ⟨-, rfl⟩ | ⟨-, text, -, hload⟩
  · exact Store.sound_empty
  · exact Store.sound_of_load hload

/-- The log that a command opens at a path. -/
structure Holds (settings : Settings) (store : String) (files : Files) (l : Ledger) : Prop where
  finds : Finds settings store files l.store
  opens : Ledger.ofStore l.store true = .ok l

/-- The lines of a text that are not blank stand for leaves, and these were appended, in order, to
the log at a path. -/
structure Appended (settings : Settings) (h : Hash) (hex : Bool) (store text : String)
    (files files' : Files) (l next : Ledger) : Prop where
  before : Holds settings store files l
  lines : ∃ leaves,
    List.Forall₂ (fun line leaf => leafOf? h hex line = some leaf) (filledLines text) leaves ∧
      l.appendAll h leaves = .ok next
  size : next.size = l.size + (filledLines text).length
  after : Finds settings store files' next.store
  /-- A zero digest among the partials stands in the way of opening the log again. -/
  reopens : Holds settings store files' next ↔ some zeroDigest ∉ next.accumulator.slots
  /-- No other file was written. -/
  elsewhere : ∃ place saved, files.Opens (Path.ofString store) place ∧
    files' = files.put place saved

/-- Accumulating refuses, or the lines are appended and the store is written. -/
lemma refusesOr_accumulate (settings : Settings) (h : Hash) (leavesPath store : String)
    (hex : Bool) (files : Files) :
    (accumulate settings h leavesPath store hex).RefusesOr files fun outcome files' =>
      ∃ text l next, files.read (Path.ofString leavesPath) = .ok text ∧
        Appended settings h hex store text files files' l next ∧ outcome = shown next := by
  rcases refuses_or_loadStore settings store files with href | ⟨kept, hkept⟩
  · exact Or.inl href.bind
  refine .after hkept.ends_loadStore ?_
  rcases refuses_or_rebuild kept files with href | ⟨l, hopen⟩
  · exact Or.inl href.bind
  obtain ⟨rfl, hheads⟩ := Ledger.of_ofStore_eq_ok hopen
  refine .after (ends_rebuild hopen) ?_
  rcases refuses_or_read files (Path.ofString leavesPath) with href | ⟨text, hread⟩
  · exact Or.inl href.bind
  refine .after (Ends.read hread) ?_
  have hopened : (⟨l.store, l.accumulator, true⟩ : Ledger) = l := by rw [← hheads]
  rw [hopened]
  rcases refuses_or_appendLines h hex l (Text.lines text.toList) files with
    href | ⟨leaves, next, hleaves, hrun⟩
  · exact Or.inl href.bind
  refine .after (ends_appendLines hleaves hrun) ?_
  -- the store can be saved, and is read back
  obtain ⟨hresumable, -⟩ := Ledger.resumable_of_ofStore hkept.sound hopen
  obtain ⟨hnext, hsize, hheads'⟩ := hresumable.of_appendAll hrun
  obtain ⟨saved, hsave, -⟩ := Store.load_save hnext.store settings.hashAlgorithm
  refine .after (Ends.ofExcept hsave) ?_
  rcases refuses_or_write files (Path.ofString store) saved with href | ⟨files', hwrite⟩
  · exact Or.inl href.bind
  obtain ⟨place, hopens, rfl⟩ := Files.exists_opens_of_write hwrite
  obtain ⟨printed, hshow⟩ := ends_show h next (files.put place (Bytes.utf8 saved))
  refine Or.inr ⟨_, _, _, ⟨text, l, next, hread, ?_, rfl⟩, (Ends.write hwrite).bind hshow⟩
  have hstores : Stores settings store (files.put place (Bytes.utf8 saved)) next :=
    Or.inr ⟨place, saved, hopens.resolve_put (Bytes.utf8 saved), hsave⟩
  have hfinds := hstores.finds hnext.store
  have hreopen := hnext.ofStore_eq_iff
  rw [hheads', hheads] at hreopen
  exact {
    before := ⟨hkept, hopen⟩
    lines := ⟨leaves, hleaves, hrun⟩
    size := by rw [hsize, hleaves.length_eq.symm]; rfl
    after := hfinds
    reopens := ⟨fun hholds => hreopen.1 hholds.opens, fun hzero => ⟨hfinds, hreopen.2 hzero⟩⟩
    elsewhere := ⟨place, Bytes.utf8 saved, hopens, rfl⟩ }

lemma isDigest_of_leafOf? {line : List Char} {leaf : Bytes}
    (hleaf : leafOf? h hex line = some leaf) : isDigest leaf = true := by
  rw [leafOf?] at hleaf
  split at hleaf
  · exact (Option.filter_eq_some_iff.1 hleaf).2
  · obtain rfl := Option.some.inj hleaf
    exact isDigest_iff.2 (h.length_digest _)

lemma isDigest_of_forall₂ {lines : List (List Char)} {leaves : List Bytes}
    (hleaves : List.Forall₂ (fun line leaf => leafOf? h hex line = some leaf) lines leaves) :
    ∀ d ∈ leaves, isDigest d = true := by
  induction hleaves with
  | nil => exact nofun
  | cons hleaf _ ih => exact List.forall_mem_cons.2 ⟨isDigest_of_leafOf? hleaf, ih⟩

/-- Nothing but these can keep a file from being accumulated: the journal, the log before, the
lines, the room in the log and the place of the store. -/
lemma run_accumulate_eq {level : Level} {leaves : List Bytes}
    (hargs : Asks args (.accumulate leavesPath store hex))
    (hlevel : Level.ofSetting settings.logLevel = .ok level) (hl : Holds settings store files l)
    (hread : files.read (Path.ofString leavesPath) = .ok text)
    (hleaves : List.Forall₂ (fun line leaf => leafOf? h hex line = some leaf) (filledLines text)
      leaves)
    (hpos : 0 < l.size + leaves.length) (hmax : l.size + leaves.length ≤ maxWord)
    (hwritable : files.Writable (Path.ofString store)) :
    (run settings h args files).stop = .exit 0 := by
  obtain ⟨hresumable, -⟩ := Ledger.resumable_of_ofStore hl.finds.sound hl.opens
  obtain ⟨next, sizes, hsizes, hnext, hsize, -⟩ :=
    hresumable.appendSizes (h := h) (isDigest_of_forall₂ hleaves) hmax
  obtain ⟨saved, hsave, -⟩ := Store.load_save hnext.store settings.hashAlgorithm
  obtain ⟨place, hopens⟩ := hwritable.exists_opens
  obtain ⟨printed, hends⟩ := ends_accumulate hl.finds hl.opens hread hleaves
    (Ledger.appendAll_of_appendSizes hsizes) hsave hopens
  obtain ⟨hstop, -⟩ := run_eq hlevel hargs hends
  have hshown : shown next = .ok () := if_neg (by omega)
  rw [hstop, hshown]
  rfl

/-- Accumulating appends all lines or none.  A run that accumulates a file stops without success and
leaves the files as they are; or all lines of the file that are not blank were appended, in order,
to the log of the store and nothing else was written.  Then the run goes well, except where there is
still no leaf, in the log before and in the file: then it fails with the store already written.  It
does go well if the lines stand for leaves that the log has room for. -/
theorem accumulate_all_or_nothing (settings : Settings) (h : Hash) (files : Files)
    (hargs : Asks args (.accumulate leavesPath store hex)) :
    let report := run settings h args files
    ((report.stop ≠ .exit 0 ∧ report.session.files = files) ∨
      ∃ text l next, files.read (Path.ofString leavesPath) = .ok text ∧
        Appended settings h hex store text files report.session.files l next ∧
        ((report.stop = .exit 0 ∧ 0 < next.size) ∨
          (report.stop = .failure (.log .noRoot) ∧ l.size = 0 ∧ filledLines text = []))) ∧
    ∀ level l text leaves, Level.ofSetting settings.logLevel = .ok level →
      Holds settings store files l → files.Writable (Path.ofString store) →
      files.read (Path.ofString leavesPath) = .ok text →
      List.Forall₂ (fun line leaf => leafOf? h hex line = some leaf) (filledLines text) leaves →
      0 < l.size + leaves.length → l.size + leaves.length ≤ maxWord → report.stop = .exit 0 := by
  dsimp only
  refine ⟨?_, ?_⟩
  · rcases run_refuses_or hargs (refusesOr_accumulate settings h leavesPath store hex files) with
      href | ⟨outcome, hstop, text, l, next, hread, happended, rfl⟩
    · exact Or.inl href
    · refine Or.inr ⟨text, l, next, hread, happended, ?_⟩
      have hsize := happended.size
      rw [hstop, shown]
      split
      · exact Or.inr ⟨rfl, by omega, List.length_eq_zero_iff.1 (by omega)⟩
      · exact Or.inl ⟨rfl, by omega⟩
  · intro level l text leaves hlevel hl hwritable hread hleaves hpos hmax
    exact run_accumulate_eq hargs hlevel hl hread hleaves hpos hmax hwritable

/-- The command line that reads the lines as written digests. -/
def hexArgs : List String := ["accumulate", "--hex", "--store", "s.json", "--", "l.txt"]

lemma asks_hexArgs : Asks hexArgs (.accumulate "l.txt" "s.json" true) :=
  ⟨false, .accumulate, hexArgs.tail, by decide +kernel, by decide +kernel⟩

lemma holds_twoLines : Holds Settings.default "s.json" twoLines (.empty true) where
  finds := Or.inl ⟨by rw [Files.contains, resolve_store_twoLines], rfl⟩
  opens := Ledger.ofStore_empty true

/-- Two lines are appended; read as written digests, which they are not, they change nothing. -/
theorem accumulate_all_or_nothing_twoLines :
    (accumulated.stop = .exit 0 ∧ ∃ l next,
      Appended Settings.default Sha256.hash false "s.json" "a\n \nb\n" twoLines
        accumulated.session.files l next ∧ next.size = l.size + 2) ∧
    (run Settings.default Sha256.hash hexArgs twoLines).stop ≠ .exit 0 ∧
    (run Settings.default Sha256.hash hexArgs twoLines).session.files = twoLines := by
  refine ⟨?_, ?_⟩
  · obtain ⟨hall, hgood⟩ := accumulate_all_or_nothing Settings.default Sha256.hash twoLines
      (asks_accumulate "l.txt" "s.json")
    have hlines := forall₂_lineDigest Sha256.hash (filledLines "a\n \nb\n")
    have hlength : ((filledLines "a\n \nb\n").map (lineDigest Sha256.hash)).length = 2 := by
      rw [filledLines_twoLines]
      rfl
    have hstop : accumulated.stop = .exit 0 :=
      hgood .info (.empty true) _ _ level_default holds_twoLines
        ⟨_, resolve_store_twoLines, nofun⟩ read_twoLines hlines (by omega) (by rw [hlength]; decide)
    rcases hall with ⟨hfail, -⟩ | ⟨text, l, next, hread, happended, -⟩
    · exact absurd hstop hfail
    · obtain rfl := Except.ok.inj (hread.symm.trans read_twoLines)
      rw [List.length_map] at hlength
      exact ⟨hstop, l, next, happended, by rw [happended.size, hlength]⟩
  · rcases (accumulate_all_or_nothing Settings.default Sha256.hash twoLines asks_hexArgs).1 with
      href | ⟨text, l, next, hread, happended, -⟩
    · exact href
    · -- the first line is no digest
      obtain rfl := Except.ok.inj (hread.symm.trans read_twoLines)
      obtain ⟨leaves, hleaves, -⟩ := happended.lines
      rw [filledLines_twoLines] at hleaves
      cases hleaves with
      | cons hfirst =>
        have hnone : leafOf? Sha256.hash true ['a'] = none := by decide +kernel
        rw [hnone] at hfirst
        cases hfirst

/-- A disk with an empty file of lines, and no store. -/
def noLines : Files := ⟨["w"], [(["w", "l.txt"], .file [])]⟩

/-- The run that accumulates no lines. -/
def accumulatedNone : Report :=
  run Settings.default Sha256.hash ["accumulate", "--store", "s.json", "--", "l.txt"] noLines

/-- Accumulating no lines to no log fails, but leaves a store behind. -/
theorem not_all_or_nothing_noLines :
    noLines.read (Path.ofString "s.json") = .error .notFound ∧
      accumulatedNone.stop = .failure (.log .noRoot) ∧
      accumulatedNone.session.files.read (Path.ofString "s.json") = .ok
        "\x7b\n  \"hash_algorithm\": \"sha256\",\n  \"events\": [],\n  \"heads\": []\n\x7d" := by
  decide +kernel

end Console

end MerkleLog

import MerkleLog.Journal.Filter
import MerkleLog.Proofs.Journal.Runs

/-!
# The filter cuts down what are digests

Within a maximal run there is no border, so a digest is found at the first character of a run or not
at all, and if it is found it is the whole run.  The pass over a message thus goes from one maximal
run to the next and cuts each of them down.  The filter leaves the record that it should: with the
message cut down and formed for good, or untouched.
-/

namespace MerkleLog

namespace Text

variable {b c : Char} {before : Option Char} {cs run rest kept dropped : List Char}
  {runs : List (List Char)} {word : Bool}

/-! ## One place -/

lemma isBorder_comm (before after : Option Char) : isBorder before after = isBorder after before :=
  bne_comm

/-- Next to a word character there is a border where no other one stands. -/
lemma isBorder_some_iff (hc : isWord c = true) :
    isBorder before (some c) = true ↔ ∀ b ∈ before, isWord b = false := by
  cases before with
  | none => simp [isBorder, hc]
  | some b => simp [isBorder, hc]

/-- Between two characters of a kind there is no digest. -/
lemma digest?_inside (hsame : isWord b = isWord c) (cs : List Char) :
    digest? (some b) (c :: cs) = none := by
  simp [digest?, isBorder, hsame]

/-- A word up to where it ends. -/
lemma takeWhile_eq (hcs : ∀ c ∈ cs, isWord c = true) (hrest : ∀ c ∈ rest.head?, isWord c = false) :
    (cs ++ rest).takeWhile isWord = cs := by
  rw [List.takeWhile_append_of_pos hcs]
  cases rest with
  | nil => simp
  | cons c rest => simp [hrest c rfl]

/-- What is found at a border is a digest, up to where its word ends. -/
lemma takeWhile_of_digest? (h : digest? before cs = some (kept, dropped, rest)) :
    isDigestWord (kept ++ dropped) = true ∧ cs.takeWhile isWord = kept ++ dropped := by
  obtain ⟨rfl, ⟨hkept, hkept_hex⟩, ⟨hdropped, hdropped_hex⟩, -, hend⟩ := digest?_eq_some_iff.1 h
  have hdigest : isDigestWord (kept ++ dropped) = true := by
    simp [isDigestWord, hkept, hkept_hex, hdropped, hdropped_hex]
  have hne : dropped ≠ [] := by
    rintro rfl
    cases hdropped
  have hlast : isWord (dropped.getLast hne) = true :=
    isWord_of_mem_digest hdigest (List.mem_append_right _ (List.getLast_mem hne))
  refine ⟨hdigest, ?_⟩
  rw [List.getLast?_eq_some_getLast hne, isBorder_comm, isBorder_some_iff hlast] at hend
  rw [← List.append_assoc]
  exact takeWhile_eq (fun c hc => isWord_of_mem_digest hdigest hc) hend

/-- What is dropped of a digest ends as the digest does. -/
lemma getLast?_drop_of_digest (hrun : isDigestWord run = true) :
    (run.drop 8).getLast? = run.getLast? := by
  have hlength := (isDigestWord_iff.1 hrun).1
  rw [List.getLast?_drop, if_neg (by omega)]

/-- A digest is found where it begins. -/
lemma digest?_of_digest (hrun : isDigestWord run = true)
    (hbefore : ∀ b ∈ before, isWord b = false) (hend : ∀ c ∈ rest.head?, isWord c = false) :
    digest? before (run ++ rest) = some (run.take 8, run.drop 8, rest) := by
  obtain ⟨hlength, hhex⟩ := isDigestWord_iff.1 hrun
  have hne := ne_nil_of_isDigestWord hrun
  have hfirst : isWord (run.head hne) = true := isWord_of_mem_digest hrun (List.head_mem hne)
  have hlast : isWord (run.getLast hne) = true := isWord_of_mem_digest hrun (List.getLast_mem hne)
  have hbegin : isBorder before (run ++ rest).head? = true := by
    rw [List.head?_append_of_ne_nil _ hne, List.head?_eq_some_head hne, isBorder_some_iff hfirst]
    exact hbefore
  have hafter : isBorder (run.drop 8).getLast? rest.head? = true := by
    rw [getLast?_drop_of_digest hrun, List.getLast?_eq_some_getLast hne, isBorder_comm,
      isBorder_some_iff hlast]
    exact hend
  refine digest?_eq_some_iff.2 ⟨?_, ⟨?_, ?_⟩, ⟨?_, ?_⟩, hbegin, hafter⟩
  · rw [← List.append_assoc, List.take_append_drop]
  · rw [List.length_take, hlength]
    rfl
  · exact List.all_eq_true.2 fun c hc => hhex c (List.mem_of_mem_take hc)
  · rw [List.length_drop, hlength]
  · exact List.all_eq_true.2 fun c hc => hhex c (List.mem_of_mem_drop hc)

/-- No digest is found where a run begins that is none. -/
lemma digest?_of_not_digest (hne : run ≠ []) (hkind : ∀ c ∈ run, isWord c = word)
    (hend : ∀ c ∈ rest.head?, isWord c ≠ word) (hrun : ¬ isDigestWord run = true) :
    digest? before (run ++ rest) = none := by
  rw [Option.eq_none_iff_forall_ne_some]
  rintro ⟨kept, dropped, after⟩ hfound
  obtain ⟨hdigest, htake⟩ := takeWhile_of_digest? hfound
  cases word with
  | true =>
    rw [takeWhile_eq hkind (by simpa using hend)] at htake
    exact hrun (htake ▸ hdigest)
  | false =>
    obtain ⟨c, cs, rfl⟩ := List.exists_cons_of_ne_nil hne
    rw [List.cons_append, List.takeWhile_cons_of_neg (by simp [hkind c])] at htake
    exact ne_nil_of_isDigestWord hdigest htake.symm

/-! ## One run -/

lemma scan_of_none (hnone : digest? before (c :: cs) = none) :
    scan before (c :: cs) = c :: scan (some c) cs := by
  rw [scan]
  split
  case h_1 heq => simp [heq] at hnone
  case h_2 => rfl

lemma scan_of_some (hsome : digest? before (c :: cs) = some (kept, dropped, rest)) :
    scan before (c :: cs) = kept ++ '.' :: '.' :: scan dropped.getLast? rest := by
  rw [scan]
  split
  case h_1 heq =>
    rw [hsome] at heq
    cases heq
    rfl
  case h_2 heq => simp [heq] at hsome

/-- The pass goes on through characters of the kind of the one behind it. -/
lemma scan_inside (hkind : ∀ c ∈ cs, isWord c = isWord b) :
    scan (some b) (cs ++ rest) = cs ++ scan (b :: cs).getLast? rest := by
  induction cs generalizing b with
  | nil => rfl
  | cons c cs ih =>
    have hc := hkind c List.mem_cons_self
    have hcs : ∀ d ∈ cs, isWord d = isWord c := fun d hd => by
      rw [hc, hkind d (List.mem_cons_of_mem c hd)]
    rw [List.cons_append, scan_of_none (digest?_inside hc.symm _), ih hcs, List.getLast?_cons_cons]
    rfl

/-- The pass cuts a maximal run down: all of it at its first character, or nothing. -/
lemma scan_run (hne : run ≠ []) (hkind : ∀ c ∈ run, isWord c = word)
    (hend : ∀ c ∈ rest.head?, isWord c ≠ word) (hbefore : ∀ b ∈ before, isWord b ≠ word) :
    scan before (run ++ rest) = abbreviateRun run ++ scan run.getLast? rest := by
  obtain ⟨c, cs, rfl⟩ := List.exists_cons_of_ne_nil hne
  have hc := hkind c List.mem_cons_self
  by_cases hrun : isDigestWord (c :: cs) = true
  · obtain rfl : word = true := by
      rw [← hc, isWord_of_mem_digest hrun List.mem_cons_self]
    have hfound := digest?_of_digest hrun (by simpa using hbefore) (by simpa using hend)
    rw [List.cons_append] at hfound ⊢
    rw [scan_of_some hfound, getLast?_drop_of_digest hrun, abbreviateRun_of_digest hrun]
    simp
  · have hnone : digest? before (c :: cs ++ rest) = none :=
      digest?_of_not_digest hne hkind hend hrun
    have hcs : ∀ d ∈ cs, isWord d = isWord c := fun d hd => by
      rw [hc, hkind d (List.mem_cons_of_mem c hd)]
    rw [List.cons_append] at hnone ⊢
    rw [scan_of_none hnone, scan_inside hcs, abbreviateRun_of_not_digest hrun]
    rfl

/-! ## The whole text -/

/-- The pass goes from one maximal run to the next. -/
lemma MaximalRuns.scan_eq (h : MaximalRuns cs runs)
    (hbefore : ∀ b ∈ before, ∀ c ∈ cs.head?, isWord b ≠ isWord c) :
    scan before cs = runs.flatMap abbreviateRun := by
  induction h generalizing before with
  | nil => rw [scan, List.flatMap_nil]
  | @cons run rest runs word hne hkind hend hrest ih =>
    have hfirst : ∀ b ∈ before, isWord b ≠ word := by
      intro b hb
      rw [List.head?_append_of_ne_nil _ hne, List.head?_eq_some_head hne] at hbefore
      rw [← hkind _ (List.head_mem hne)]
      exact hbefore b hb _ rfl
    have hnext : ∀ b ∈ run.getLast?, ∀ c ∈ rest.head?, isWord b ≠ isWord c := by
      intro b hb c hc
      rw [hkind b (List.mem_of_mem_getLast? hb)]
      exact (hend c hc).symm
    rw [scan_run hne hkind hend hfirst, ih hnext, List.flatMap_cons]

/-- The pass over a text cuts all digests in it down. -/
lemma scan_eq_abbreviate (cs : List Char) : scan none cs = abbreviate cs := by
  have h := maximalRuns_runs cs
  rw [h.abbreviate_eq]
  exact h.scan_eq nofun

end Text

namespace Record

variable {r : Record} {message : String}

/-- The filter leaves the abbreviated record, or the record as it was where its message cannot be
formed. -/
lemma filter_eq (r : Record) : r.filter =
    match r.abbreviate with
    | .ok short => (short, .ok true)
    | .error fault => (r, .error fault) := by
  rw [filter, abbreviate]
  cases r.message with
  | error fault => rfl
  | ok message => simp only [Text.scan_eq_abbreviate, Except.map]

/-- A record whose message can be formed is abbreviated, and only its message changes. -/
lemma exists_abbreviate (hmessage : r.message = .ok message) : ∃ short,
    r.abbreviate = .ok short ∧
      short.message = .ok (String.ofList (Text.abbreviate message.toList)) ∧
      (short.logger = r.logger ∧ short.level = r.level) ∧
      (Text.abbreviate message.toList = message.toList → short = r) := by
  rw [abbreviate, hmessage]
  by_cases hsame : String.ofList (Text.abbreviate message.toList) = message
  · refine ⟨r, ?_, ?_, ⟨rfl, rfl⟩, fun _ => rfl⟩
    · simp [Except.map, hsame]
    · rw [hmessage, hsame]
  · refine ⟨⟨r.logger, r.level, String.ofList (Text.abbreviate message.toList), none⟩, ?_, rfl,
      ⟨rfl, rfl⟩, fun hself => ?_⟩
    · simp [Except.map, hsame]
    · rw [hself, String.ofList_toList] at hsame
      exact absurd rfl hsame

/-- The filter lets every record pass whose message can be formed.  Then the message is the one
before with each of its maximal runs that is a digest cut down, and no digest is in it.  The filter
changes nothing a second time, and nothing at all where there is no digest. -/
theorem filter_abbreviates (hmessage : r.message = .ok message) :
    ∃ (short : Record) (runs : List (List Char)),
      r.filter = (short, .ok true) ∧ r.abbreviate = .ok short ∧
      Text.MaximalRuns message.toList runs ∧
      short.message = .ok (String.ofList (runs.flatMap Text.abbreviateRun)) ∧
      (short.logger = r.logger ∧ short.level = r.level) ∧
      ¬ Text.HasDigest (runs.flatMap Text.abbreviateRun) ∧
      short.filter = (short, .ok true) ∧
      (¬ Text.HasDigest message.toList → short = r) := by
  obtain ⟨short, hshort, hcut, hplace, hself⟩ := exists_abbreviate hmessage
  have hruns := Text.maximalRuns_runs message.toList
  rw [hruns.abbreviate_eq] at hcut
  have hnone := hruns.not_hasDigest_flatMap
  have hagain : short.abbreviate = .ok short := by
    obtain ⟨again, hagain, -, -, hself⟩ := exists_abbreviate hcut
    rw [String.toList_ofList] at hself
    rw [hagain, hself (Text.abbreviate_eq_self hnone)]
  refine ⟨short, Text.runs message.toList, ?_, hshort, hruns, hcut, hplace, hnone, ?_, ?_⟩
  · rw [filter_eq, hshort]
  · rw [filter_eq, hagain]
  · exact fun hno => hself (Text.abbreviate_eq_self hno)

/-- The text of a digest. -/
def digestText : String := String.ofList (List.replicate 32 ['a', 'b']).flatten

/-- A record with a digest for a word and with one right behind a letter. -/
def twoDigests : Record :=
  ⟨"outbox_proofs.prover", .info, "100%% of %s, not é%s", some [.str digestText, .str digestText]⟩

/-- Percent signs stay as they are in the message that is formed for good. -/
theorem filter_abbreviates_twoDigests :
    twoDigests.message = .ok ("100% of " ++ digestText ++ ", not é" ++ digestText) ∧
      ∃ short, twoDigests.filter = (short, .ok true) ∧
        short.message = .ok ("100% of abababab.., not é" ++ digestText) ∧
        short.filter = (short, .ok true) := by
  have hmessage : twoDigests.message
      = .ok ("100% of " ++ digestText ++ ", not é" ++ digestText) := by decide +kernel
  obtain ⟨short, runs, hfilter, -, hruns, hcut, -, -, hagain, -⟩ := filter_abbreviates hmessage
  refine ⟨hmessage, short, hfilter, ?_, hagain⟩
  rw [hcut, hruns.eq_runs]
  decide +kernel

end Record

end MerkleLog

import Mathlib.Data.List.SplitBy
import MerkleLog.Journal.Record

/-!
# Maximal runs and the digests among them

A text falls in one way into maximal runs of word characters and of others.  Its digests are those
of its runs that consist of sixty-four lower-case hexadecimal digits.  Whether a text has one can be
told from its parts, wherever it is cut without cutting a word; so no digest is left, and none comes
up, where all of them are cut down.
-/

namespace MerkleLog.Text

variable {c : Char} {cs left right run rest : List Char} {runs : List (List Char)} {word : Bool}

/-! ## Maximal runs -/

/-- A text and its maximal runs.  A run is not empty, its characters are all word characters or all
others, and the text does not go on with one more of its kind. -/
inductive MaximalRuns : List Char → List (List Char) → Prop
  | nil : MaximalRuns [] []
  | cons {run rest : List Char} {runs : List (List Char)} (word : Bool) (hne : run ≠ [])
      (hkind : ∀ c ∈ run, isWord c = word) (hend : ∀ c ∈ rest.head?, isWord c ≠ word)
      (hrest : MaximalRuns rest runs) : MaximalRuns (run ++ rest) (run :: runs)

namespace MaximalRuns

lemma flatten_eq (h : MaximalRuns cs runs) : runs.flatten = cs := by
  induction h with
  | nil => rfl
  | cons word hne hkind hend hrest ih => rw [List.flatten_cons, ih]

/-- A character of another kind than what follows makes a run of its own. -/
lemma cons_single (h : MaximalRuns cs runs) (hend : ∀ d ∈ cs.head?, isWord d ≠ isWord c) :
    MaximalRuns (c :: cs) ([c] :: runs) :=
  @cons [c] cs runs (isWord c) (by simp) (by simp) hend h

/-- One more character in front lengthens the first run or makes one of its own. -/
lemma exists_cons (h : MaximalRuns cs runs) (c : Char) : ∃ runs, MaximalRuns (c :: cs) runs := by
  cases h with
  | nil => exact ⟨_, nil.cons_single (by simp)⟩
  | @cons run rest runs word hne hkind hend hrest =>
    by_cases hc : isWord c = word
    · refine ⟨_, @cons (c :: run) rest runs word (by simp) ?_ hend hrest⟩
      intro d hd
      rcases List.mem_cons.1 hd with rfl | hd
      · exact hc
      · exact hkind d hd
    · refine ⟨_, (cons word hne hkind hend hrest).cons_single ?_⟩
      intro d hd
      rw [List.head?_append_of_ne_nil _ hne] at hd
      rw [hkind d (List.mem_of_mem_head? hd)]
      exact fun heq => hc heq.symm

lemma exists_runs (cs : List Char) : ∃ runs, MaximalRuns cs runs := by
  induction cs with
  | nil => exact ⟨[], nil⟩
  | cons c cs ih =>
    obtain ⟨runs, hruns⟩ := ih
    exact hruns.exists_cons c

/-- The maximal runs are what cutting at every border leaves. -/
lemma eq_runs (h : MaximalRuns cs runs) : runs = Text.runs cs := by
  induction h with
  | nil => rfl
  | @cons run rest runs word hne hkind hend hrest ih =>
    have hseam : ∀ a ∈ run.getLast?, ∀ b ∈ rest.head?, (isWord a == isWord b) = false := by
      intro a ha b hb
      rw [hkind a (List.mem_of_mem_getLast? ha)]
      simpa using fun heq => hend b hb heq.symm
    have hchain : run.IsChain fun a b => (isWord a == isWord b) = true := by
      refine List.Pairwise.isChain (List.pairwise_of_forall_mem_list fun a ha b hb => ?_)
      rw [hkind a ha, hkind b hb, beq_self_eq_true]
    rw [Text.runs, List.splitBy_append hseam, List.splitBy_of_isChain hne hchain, ih]
    rfl

end MaximalRuns

lemma maximalRuns_runs (cs : List Char) : MaximalRuns cs (Text.runs cs) := by
  obtain ⟨l, hl⟩ := MaximalRuns.exists_runs cs
  rwa [hl.eq_runs] at hl

/-! ## Digests -/

lemma isWord_of_isLowerHex (hc : isLowerHex c = true) : isWord c = true := by
  have halphanum : c.isAlphanum = true := by
    rw [isLowerHex, Bool.or_eq_true] at hc
    rcases hc with hdigit | hletter
    · exact Bool.or_eq_true_iff.2 (Or.inr hdigit)
    · rw [Bool.and_eq_true, decide_eq_true_eq, decide_eq_true_eq] at hletter
      have hlower : c.isLower = true :=
        Bool.and_eq_true_iff.2 ⟨decide_eq_true hletter.1,
          decide_eq_true (UInt32.le_trans hletter.2 (by decide))⟩
      exact Bool.or_eq_true_iff.2 (Or.inl (Bool.or_eq_true_iff.2 (Or.inr hlower)))
  rw [isWord, halphanum, Bool.true_or, Bool.true_or]

lemma isDigestWord_iff :
    isDigestWord cs = true ↔ cs.length = 64 ∧ ∀ c ∈ cs, isLowerHex c = true := by
  simp [isDigestWord]

lemma isWord_of_mem_digest (hcs : isDigestWord cs = true) (hc : c ∈ cs) : isWord c = true :=
  isWord_of_isLowerHex ((isDigestWord_iff.1 hcs).2 c hc)

lemma ne_nil_of_isDigestWord (hcs : isDigestWord cs = true) : cs ≠ [] := by
  rintro rfl
  cases hcs

/-- Whether somewhere in a text there is a digest: sixty-four lower-case hexadecimal digits with no
word character right before and none right after them. -/
def HasDigest (cs : List Char) : Prop :=
  ∃ before digest after, cs = before ++ digest ++ after ∧ isDigestWord digest = true ∧
    (∀ c ∈ before.getLast?, isWord c = false) ∧ ∀ c ∈ after.head?, isWord c = false

lemma length_le_of_hasDigest (hcs : HasDigest cs) : 64 ≤ cs.length := by
  obtain ⟨before, digest, after, rfl, hdigest, -⟩ := hcs
  have hlength := (isDigestWord_iff.1 hdigest).1
  simp only [List.length_append]
  omega

/-- No word goes on from one text into the next. -/
def Parted (left right : List Char) : Prop :=
  ∀ a ∈ left.getLast?, ∀ b ∈ right.head?, ¬ (isWord a = true ∧ isWord b = true)

lemma parted_of_kind (hkind : ∀ c ∈ run, isWord c = word)
    (hend : ∀ c ∈ rest.head?, isWord c ≠ word) : Parted run rest := by
  rintro a ha b hb ⟨haword, hbword⟩
  rw [hkind a (List.mem_of_mem_getLast? ha)] at haword
  exact hend b hb (hbword.trans haword.symm)

/-- A word across the cut lies on one side of it. -/
lemma Parted.eq_nil_or {first last : List Char} (hparted : Parted (left ++ first) (last ++ right))
    (hword : ∀ c ∈ first ++ last, isWord c = true) : first = [] ∨ last = [] := by
  by_contra hne
  rw [not_or] at hne
  obtain ⟨hfirst, hlast⟩ := hne
  refine hparted (first.getLast hfirst) ?_ (last.head hlast) ?_ ⟨?_, ?_⟩
  · rw [List.getLast?_append_of_ne_nil _ hfirst]
    exact List.getLast_mem_getLast? hfirst
  · rw [List.head?_append_of_ne_nil _ hlast]
    exact List.head_mem_head? hlast
  · exact hword _ (List.mem_append_left _ (List.getLast_mem hfirst))
  · exact hword _ (List.mem_append_right _ (List.head_mem hlast))

lemma HasDigest.append_right (hleft : HasDigest left) (hparted : Parted left right) :
    HasDigest (left ++ right) := by
  obtain ⟨before, digest, after, rfl, hdigest, hbefore, hafter⟩ := hleft
  refine ⟨before, digest, after ++ right, by simp, hdigest, hbefore, fun b hb => ?_⟩
  cases after with
  | cons c after => exact hafter b hb
  | nil =>
    have hne := ne_nil_of_isDigestWord hdigest
    have hlast : digest.getLast hne ∈ (before ++ digest ++ []).getLast? := by
      simp [List.getLast?_append, List.getLast?_eq_some_getLast hne]
    have hword := isWord_of_mem_digest hdigest (List.getLast_mem hne)
    simpa [hword] using hparted _ hlast b hb

lemma HasDigest.append_left (hright : HasDigest right) (hparted : Parted left right) :
    HasDigest (left ++ right) := by
  obtain ⟨before, digest, after, rfl, hdigest, hbefore, hafter⟩ := hright
  refine ⟨left ++ before, digest, after, by simp, hdigest, fun a ha => ?_, hafter⟩
  cases before with
  | cons c before =>
    rw [List.getLast?_append_of_ne_nil _ (List.cons_ne_nil c before)] at ha
    exact hbefore a ha
  | nil =>
    have hne := ne_nil_of_isDigestWord hdigest
    have hhead : digest.head hne ∈ ([] ++ digest ++ after).head? := by
      simp [List.head?_append, List.head?_eq_some_head hne]
    have hword := isWord_of_mem_digest hdigest (List.head_mem hne)
    rw [List.append_nil] at ha
    simpa [hword] using hparted a ha _ hhead

/-- Where no word is cut, the digests of a text are those of its two parts. -/
lemma hasDigest_append (hparted : Parted left right) :
    HasDigest (left ++ right) ↔ HasDigest left ∨ HasDigest right := by
  constructor
  · rintro ⟨before, digest, after, heq, hdigest, hbefore, hafter⟩
    rw [List.append_assoc] at heq
    rcases List.append_eq_append_iff.1 heq with ⟨middle, rfl, rfl⟩ | ⟨middle, rfl, hmiddle⟩
    · -- the digest lies in the right part
      right
      refine ⟨middle, digest, after, by simp, hdigest, fun c hc => hbefore c ?_, hafter⟩
      rw [List.getLast?_append, Option.mem_def.1 hc]
      rfl
    rcases List.append_eq_append_iff.1 hmiddle with ⟨tail, rfl, rfl⟩ | ⟨tail, rfl, rfl⟩
    · -- it lies in the left part
      left
      refine ⟨before, digest, tail, by simp, hdigest, hbefore, fun c hc => hafter c ?_⟩
      rw [List.head?_append, Option.mem_def.1 hc]
      rfl
    · -- it begins where the left part ends, and no word goes across
      rcases hparted.eq_nil_or fun c hc => isWord_of_mem_digest hdigest hc with rfl | rfl
      · exact Or.inr ⟨[], tail, after, rfl, hdigest, nofun, hafter⟩
      · rw [List.append_nil] at hdigest
        exact Or.inl ⟨before, middle, [], by simp, hdigest, hbefore, nofun⟩
  · rintro (hleft | hright)
    · exact hleft.append_right hparted
    · exact hright.append_left hparted

/-- A text of one kind of characters has a digest only if it is one. -/
lemma hasDigest_iff_of_kind (hkind : ∀ c ∈ run, isWord c = word) :
    HasDigest run ↔ isDigestWord run = true := by
  constructor
  · rintro ⟨before, digest, after, rfl, hdigest, hbefore, hafter⟩
    have hne := ne_nil_of_isDigestWord hdigest
    have hword : word = true := by
      rw [← hkind (digest.head hne) (by simp), isWord_of_mem_digest hdigest (List.head_mem hne)]
    subst hword
    have hbefore_nil : before = [] := by
      rw [← List.getLast?_eq_none_iff, Option.eq_none_iff_forall_not_mem]
      intro c hc
      have hmem := List.mem_of_mem_getLast? hc
      simpa [hkind c (by simp [hmem])] using hbefore c hc
    have hafter_nil : after = [] := by
      rw [← List.head?_eq_none_iff, Option.eq_none_iff_forall_not_mem]
      intro c hc
      have hmem := List.mem_of_mem_head? hc
      simpa [hkind c (by simp [hmem])] using hafter c hc
    simpa [hbefore_nil, hafter_nil] using hdigest
  · intro hrun
    exact ⟨[], run, [], by simp, hrun, nofun, nofun⟩

/-- A text has a digest exactly if one of its maximal runs is one. -/
lemma MaximalRuns.hasDigest_iff (h : MaximalRuns cs runs) :
    HasDigest cs ↔ ∃ run ∈ runs, isDigestWord run = true := by
  induction h with
  | nil =>
    refine iff_of_false (fun hnil => ?_) (by simp)
    exact absurd (length_le_of_hasDigest hnil) (by decide)
  | @cons run rest runs word hne hkind hend hrest ih =>
    simp [hasDigest_append (parted_of_kind hkind hend), hasDigest_iff_of_kind hkind, ih]

/-! ## Digests cut down -/

lemma MaximalRuns.abbreviate_eq (h : MaximalRuns cs runs) :
    abbreviate cs = runs.flatMap abbreviateRun := by
  rw [h.eq_runs, abbreviate]

lemma abbreviateRun_of_digest (hrun : isDigestWord run = true) :
    abbreviateRun run = run.take 8 ++ ['.', '.'] :=
  if_pos hrun

lemma abbreviateRun_of_not_digest (hrun : ¬ isDigestWord run = true) : abbreviateRun run = run :=
  if_neg hrun

lemma head?_flatMap_abbreviateRun (runs : List (List Char)) :
    (runs.flatMap abbreviateRun).head? = runs.flatten.head? := by
  induction runs with
  | nil => rfl
  | cons run runs ih =>
    rw [List.flatMap_cons, List.flatten_cons, List.head?_append, List.head?_append, ih]
    by_cases hrun : isDigestWord run = true
    · obtain ⟨c, cs, rfl⟩ := List.exists_cons_of_ne_nil (ne_nil_of_isDigestWord hrun)
      rw [abbreviateRun_of_digest hrun]
      rfl
    · rw [abbreviateRun_of_not_digest hrun]

/-- What is left of a digest is too short for another, and all else was none. -/
lemma not_hasDigest_abbreviateRun (hkind : ∀ c ∈ run, isWord c = word) :
    ¬ HasDigest (abbreviateRun run) := by
  by_cases hrun : isDigestWord run = true
  · intro hshort
    have hlength := length_le_of_hasDigest hshort
    rw [abbreviateRun_of_digest hrun, List.length_append, List.length_take] at hlength
    simp only [List.length_cons, List.length_nil] at hlength
    omega
  · rw [abbreviateRun_of_not_digest hrun, hasDigest_iff_of_kind hkind]
    exact hrun

/-- What is left of a digest ends with a point, and all else ends as it did. -/
lemma parted_abbreviateRun (hparted : Parted run rest) : Parted (abbreviateRun run) rest := by
  by_cases hrun : isDigestWord run = true
  · rintro a ha b - ⟨haword, -⟩
    rw [abbreviateRun_of_digest hrun, List.getLast?_append, Option.mem_def] at ha
    obtain rfl : '.' = a := Option.some.inj ha
    revert haword
    decide
  · rwa [abbreviateRun_of_not_digest hrun]

/-- Where all digests are cut down, none is left. -/
lemma MaximalRuns.not_hasDigest_flatMap (h : MaximalRuns cs runs) :
    ¬ HasDigest (runs.flatMap abbreviateRun) := by
  induction h with
  | nil => exact fun hnil => absurd (length_le_of_hasDigest hnil) (by decide)
  | @cons run rest runs word hne hkind hend hrest ih =>
    have hhead : (runs.flatMap abbreviateRun).head? = rest.head? := by
      rw [head?_flatMap_abbreviateRun, hrest.flatten_eq]
    have hparted : Parted (abbreviateRun run) (runs.flatMap abbreviateRun) := by
      rw [Parted, hhead]
      exact parted_abbreviateRun (parted_of_kind hkind hend)
    rw [List.flatMap_cons, hasDigest_append hparted, not_or]
    exact ⟨not_hasDigest_abbreviateRun hkind, ih⟩

/-- A text without digests stays as it is. -/
lemma abbreviate_eq_self (hcs : ¬ HasDigest cs) : abbreviate cs = cs := by
  have h := maximalRuns_runs cs
  have hruns : ∀ run ∈ Text.runs cs, abbreviateRun run = run := by
    intro run hrun
    exact abbreviateRun_of_not_digest fun hdigest => hcs (h.hasDigest_iff.2 ⟨run, hrun, hdigest⟩)
  calc abbreviate cs = (Text.runs cs).flatMap id := List.flatMap_congr hruns
    _ = cs := by rw [List.flatMap_id, h.flatten_eq]

end MerkleLog.Text

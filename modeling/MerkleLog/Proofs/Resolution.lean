import MerkleLog.Hash.Sha256
import MerkleLog.Proofs.Frontier
import MerkleLog.Proofs.Text.Numeral
import MerkleLog.Resolve

/-!
# How the resolution of a plan ends

Whatever a lookup answers, a plan is resolved in one of five ways, of which the first that applies
is taken: something found is no digest; a partial is absent; the frontier leads to another root; a
node that was complete at the size is absent; or there is a proof.  Past the size nothing can be
absent, because the climb of the frontier makes known every sibling that reaches there.
-/

namespace MerkleLog

namespace Plan

variable {h : Hash} {p : Plan} {found : Found} {known : Known} {root leaf : Bytes} {level : Nat}
  {a : Address}

/-- All that was found for what a plan asks for are digests. -/
def WellFormed (p : Plan) (found : Found) : Prop :=
  ∀ a ∈ p.query, ∀ d, found a = some d → isDigest d = true

/-- The digest that a proof has for a level: the one found or, past the size, the one rebuilt. -/
def siblingDigest (h : Hash) (p : Plan) (found : Found) (level : Nat) : Bytes :=
  if p.isComplete (p.siblingAt level).address then
    (found (p.siblingAt level).address).getD zeroDigest
  else Frontier.pastDigest h p found level

/-! ## What was found -/

/-- What was found for one address becomes known. -/
lemma gather_eq_ok (ha : ∀ d, found a = some d → isDigest d = true) (known : Known) :
    ∃ known', gather found known a = .ok known' ∧
      known'[a]? = (found a).or known[a]? ∧ ∀ b, a ≠ b → known'[b]? = known[b]? := by
  rw [gather]
  cases hfound : found a with
  | none => exact ⟨known, rfl, rfl, fun _ _ => rfl⟩
  | some d =>
    refine ⟨known.insert a d, ?_, Std.HashMap.getElem?_insert_self, fun b hne =>
      Frontier.getElem?_insert_of_ne hne d⟩
    dsimp only
    rw [if_pos (ha d hfound)]

lemma foldlM_gather_eq_ok {asked : List Address}
    (hformed : ∀ a ∈ asked, ∀ d, found a = some d → isDigest d = true) (known : Known) :
    ∃ known', asked.foldlM (gather found) known = .ok known' ∧
      ∀ b, known'[b]? = if b ∈ asked then (found b).or known[b]? else known[b]? := by
  induction asked generalizing known with
  | nil => exact ⟨known, rfl, fun b => by rw [if_neg List.not_mem_nil]⟩
  | cons a asked ih =>
    rw [List.forall_mem_cons] at hformed
    obtain ⟨next, hnext, hat, hother⟩ := gather_eq_ok hformed.1 known
    obtain ⟨last, hlast, hget⟩ := ih hformed.2 next
    refine ⟨last, by rw [List.foldlM_cons, hnext, ok_bind, hlast], fun b => ?_⟩
    rw [hget]
    by_cases hsame : a = b
    · subst hsame
      rw [hat, if_pos List.mem_cons_self]
      split_ifs
      · cases found a <;> rfl
      · rfl
    · have hne : b ≠ a := Ne.symm hsame
      simp only [hother b hsame, List.mem_cons, hne, false_or]

/-- Digests that were found are collected. -/
lemma collect_eq_ok (hformed : p.WellFormed found) :
    ∃ known, p.collect found = .ok known ∧ ∀ a ∈ p.query, known[a]? = found a := by
  obtain ⟨known, hknown, hget⟩ := foldlM_gather_eq_ok hformed ∅
  refine ⟨known, hknown, fun a ha => ?_⟩
  rw [hget, if_pos ha, Std.HashMap.getElem?_empty, Option.or_none]

lemma foldlM_gather_eq_error {asked : List Address} {d : Bytes} (ha : a ∈ asked)
    (hfound : found a = some d) (hd : isDigest d = false) (known : Known) :
    ∃ b ∈ asked, ∃ e, found b = some e ∧ isDigest e = false ∧
      asked.foldlM (gather found) known = .error (.malformedNode b) := by
  induction asked generalizing known with
  | nil => cases ha
  | cons b asked ih =>
    rw [List.foldlM_cons]
    by_cases hb : ∀ e, found b = some e → isDigest e = true
    · obtain ⟨next, hnext, -⟩ := gather_eq_ok hb known
      have hrest : a ∈ asked := by
        refine (List.mem_cons.1 ha).resolve_left ?_
        rintro rfl
        rw [hb d hfound] at hd
        cases hd
      obtain ⟨c, hc, e, hfound', he, hfail⟩ := ih hrest next
      exact ⟨c, List.mem_cons_of_mem _ hc, e, hfound', he, by rw [hnext, ok_bind, hfail]⟩
    · obtain ⟨e, hfound', he⟩ : ∃ e, found b = some e ∧ isDigest e = false := by simpa using hb
      refine ⟨b, List.mem_cons_self, e, hfound', he, ?_⟩
      rw [gather, hfound']
      dsimp only
      rw [he]
      rfl

/-- The first found value that is no digest is reported. -/
lemma collect_eq_error (hmalformed : ¬p.WellFormed found) :
    ∃ a ∈ p.query, ∃ d, found a = some d ∧ isDigest d = false ∧
      p.collect found = .error (.malformedNode a) := by
  obtain ⟨a, ha, d, hfound, hd⟩ :
      ∃ a ∈ p.query, ∃ d, found a = some d ∧ isDigest d = false := by
    simpa [WellFormed] using hmalformed
  exact foldlM_gather_eq_error ha hfound hd ∅

lemma foldlM_gather_congr {found' : Found} {asked : List Address}
    (hsame : ∀ a ∈ asked, found' a = found a) (known : Known) :
    asked.foldlM (gather found') known = asked.foldlM (gather found) known := by
  induction asked generalizing known with
  | nil => rfl
  | cons a asked ih =>
    rw [List.forall_mem_cons] at hsame
    rw [List.foldlM_cons, List.foldlM_cons, gather, gather, hsame.1]
    exact congrArg _ (funext fun next => ih hsame.2 next)

/-- What was found for other addresses than those asked for is ignored. -/
lemma resolve_congr {found' : Found} (hsame : ∀ a ∈ p.query, found' a = found a) :
    p.resolve h root leaf found' = p.resolve h root leaf found := by
  have hcollect : p.collect found' = p.collect found := foldlM_gather_congr hsame ∅
  rw [resolve, resolve, hcollect]

/-! ## The frontier -/

/-- What is known once the frontier is rebuilt: what was found, and all that the path meets past the
size. -/
structure Ready (h : Hash) (p : Plan) (found : Found) (known : Known) : Prop where
  fetched : ∀ a ∈ p.query, known[a]? = found a
  past : ∀ l < p.depth, p.size < (p.siblingAt l).stop →
    known[(p.siblingAt l).address]? = some (Frontier.pastDigest h p found l)

/-- All partials were found. -/
def HasPartials (p : Plan) (found : Found) : Prop :=
  ∀ level a, (level, a) ∈ p.partials → found a ≠ none

/-- The frontier of the size leads to a root over the partials that were found; a size without a
frontier leads to every root. -/
def LeadsTo (h : Hash) (p : Plan) (found : Found) (root : Bytes) : Prop :=
  p.balanced = false → Frontier.digest h p found p.levels = root

lemma HasPartials.ne_none (hpartials : p.HasPartials found) (hbalanced : p.balanced = false)
    (hbit : p.size.testBit level = true) : found (p.partialAt level) ≠ none :=
  hpartials level _ (mem_partials.2 ⟨hbalanced, hbit, rfl⟩)

lemma exists_lowest_partial (hpartials : ¬p.HasPartials found) :
    ∃ level a, (level, a) ∈ p.partials ∧ found a = none ∧
      ∀ l b, (l, b) ∈ p.partials → l < level → found b ≠ none := by
  classical
  have hexists : ∃ l a, (l, a) ∈ p.partials ∧ found a = none := by
    simpa [HasPartials] using hpartials
  obtain ⟨a, ha, habsent⟩ := Nat.find_spec hexists
  exact ⟨_, a, ha, habsent, fun l b hb hl habsent' => Nat.find_min hexists hl ⟨b, hb, habsent'⟩⟩

/-- The lowest partial that is absent is reported. -/
lemma frontier_absent (hknown : ∀ a ∈ p.query, known[a]? = found a)
    (ha : (level, a) ∈ p.partials) (habsent : found a = none)
    (hlowest : ∀ l b, (l, b) ∈ p.partials → l < level → found b ≠ none) :
    p.frontier h root known = .error (.partialMissing a) := by
  obtain ⟨hbalanced, hbit, rfl⟩ := mem_partials.1 ha
  have hbelow : ∀ l < level, p.size.testBit l = true → found (p.partialAt l) ≠ none :=
    fun l hl hbit' => hlowest l _ (mem_partials.2 ⟨hbalanced, hbit', rfl⟩) hl
  rw [frontier, hbalanced, if_neg Bool.false_ne_true,
    Frontier.rebuild_eq_error hbalanced hknown hbit habsent hbelow]
  rfl

/-- Another root than the expected one is reported. -/
lemma frontier_mismatch (hknown : ∀ a ∈ p.query, known[a]? = found a)
    (hbalanced : p.balanced = false) (hpartials : p.HasPartials found)
    (htop : Frontier.digest h p found p.levels ≠ root) :
    p.frontier h root known
      = .error (.rootMismatch root (Frontier.digest h p found p.levels) p.size) := by
  obtain ⟨known', hrebuild, -⟩ := Frontier.rebuild_eq_ok (h := h) hbalanced hknown fun l =>
    hpartials.ne_none hbalanced
  rw [frontier, hbalanced, if_neg Bool.false_ne_true, hrebuild, ok_bind]
  dsimp only
  rw [if_pos htop]
  rfl

/-- A frontier that leads to the expected root makes known what the path meets past the size. -/
lemma frontier_eq_ok (hknown : ∀ a ∈ p.query, known[a]? = found a)
    (hpartials : p.HasPartials found) (htop : p.LeadsTo h found root) :
    ∃ known', p.frontier h root known = .ok known' ∧ Ready h p found known' := by
  cases hbalanced : p.balanced with
  | true =>
    refine ⟨known, by rw [frontier, hbalanced, if_pos rfl], ⟨hknown, fun l hl hreach => ?_⟩⟩
    exact absurd (stop_siblingAt_of_balanced hbalanced hl) hreach.not_ge
  | false =>
    obtain ⟨known', hrebuild, hclimbed⟩ := Frontier.rebuild_eq_ok (h := h) hbalanced hknown fun l =>
      hpartials.ne_none hbalanced
    refine ⟨known', ?_, ⟨hclimbed.fetched, fun l hl =>
      hclimbed.getElem?_siblingAt (hl.trans_le p.depth_le_levels)⟩⟩
    rw [frontier, hbalanced, if_neg Bool.false_ne_true, hrebuild, ok_bind]
    dsimp only
    rw [if_neg (not_not.2 (htop hbalanced))]
    rfl

/-! ## The nodes on the way up -/

/-- All nodes on the way up that were complete at the size were found. -/
def HasNodes (p : Plan) (found : Found) : Prop :=
  ∀ level < p.depth, p.isComplete (p.siblingAt level).address = true →
    found (p.siblingAt level).address ≠ none

lemma exists_lowest_node (hnodes : ¬p.HasNodes found) :
    ∃ level < p.depth, p.isComplete (p.siblingAt level).address = true ∧
      found (p.siblingAt level).address = none ∧
      ∀ l < level, p.isComplete (p.siblingAt l).address = true →
        found (p.siblingAt l).address ≠ none := by
  classical
  have hexists : ∃ l < p.depth, p.isComplete (p.siblingAt l).address = true ∧
      found (p.siblingAt l).address = none := by
    simpa [HasNodes] using hnodes
  obtain ⟨hlevel, hcomplete, habsent⟩ := Nat.find_spec hexists
  exact ⟨_, hlevel, hcomplete, habsent, fun l hl hcomplete' habsent' =>
    Nat.find_min hexists hl ⟨hl.trans hlevel, hcomplete', habsent'⟩⟩

lemma Ready.nodeDigest_eq (hready : Ready h p found known) (hlevel : level < p.depth)
    (hfound : p.isComplete (p.siblingAt level).address = true →
      found (p.siblingAt level).address ≠ none) :
    nodeDigest known (p.siblingAt level).address = .ok (p.siblingDigest h found level) := by
  rw [nodeDigest, siblingDigest]
  by_cases hcomplete : p.isComplete (p.siblingAt level).address = true
  · obtain ⟨d, hd⟩ := Option.ne_none_iff_exists'.1 (hfound hcomplete)
    rw [hready.fetched _ (siblingAt_mem_query hlevel hcomplete), if_pos hcomplete, hd]
    rfl
  · have hreach : p.size < (p.siblingAt level).stop := by
      rwa [isComplete_address, not_le] at hcomplete
    rw [hready.past level hlevel hreach, if_neg hcomplete]

/-- The lowest node that was complete at the size and is absent is reported. -/
lemma Ready.nodes_absent (hready : Ready h p found known) (hlevel : level < p.depth)
    (hcomplete : p.isComplete (p.siblingAt level).address = true)
    (habsent : found (p.siblingAt level).address = none)
    (hlowest : ∀ l < level, p.isComplete (p.siblingAt l).address = true →
      found (p.siblingAt l).address ≠ none) :
    p.nodes.mapM (nodeDigest known) = .error (.nodeMissing (p.siblingAt level).address) := by
  obtain ⟨rest, hrest⟩ := Nat.exists_eq_add_of_lt hlevel
  have hat : nodeDigest known (p.siblingAt level).address
      = .error (.nodeMissing (p.siblingAt level).address) := by
    rw [nodeDigest, hready.fetched _ (siblingAt_mem_query hlevel hcomplete), habsent]
  rw [nodes, hrest, Nat.add_assoc, List.range_add, List.range_succ_eq_map, List.map_cons,
    List.map_append, List.map_cons, Nat.add_zero]
  refine mapM_append_eq_error (fun a ha => ?_) hat
  obtain ⟨l, hl, rfl⟩ := List.mem_map.1 ha
  have hl' := List.mem_range.1 hl
  exact ⟨_, hready.nodeDigest_eq (hl'.trans hlevel) (hlowest l hl')⟩

/-- Nodes that were found or rebuilt are the hashes of the proof. -/
lemma Ready.nodes_eq_ok (hready : Ready h p found known) (hnodes : p.HasNodes found) :
    p.nodes.mapM (nodeDigest known)
      = .ok ((List.range p.depth).map (p.siblingDigest h found)) := by
  rw [nodes, List.mapM_map]
  refine mapM_eq_ok fun l hl => ?_
  have hl' := List.mem_range.1 hl
  exact hready.nodeDigest_eq hl' (hnodes l hl')

/-! ## The five ways -/

/-- What comes of a plan, of its root and leaf and of what was found.  A way applies only where none
of the ways before it does. -/
inductive Resolution (h : Hash) (p : Plan) (root leaf : Bytes) (found : Found) :
    Except Error Proof → Prop
  | malformed {a : Address} {d : Bytes} (ha : a ∈ p.query) (hfound : found a = some d)
      (hd : isDigest d = false) :
      Resolution h p root leaf found (.error (.malformedNode a))
  | partialMissing {level : Nat} {a : Address} (hformed : p.WellFormed found)
      (hbalanced : p.balanced = false) (ha : (level, a) ∈ p.partials) (habsent : found a = none)
      (hlowest : ∀ l b, (l, b) ∈ p.partials → l < level → found b ≠ none) :
      Resolution h p root leaf found (.error (.partialMissing a))
  | rootMismatch (hformed : p.WellFormed found) (hpartials : p.HasPartials found)
      (hbalanced : p.balanced = false) (htop : Frontier.digest h p found p.levels ≠ root) :
      Resolution h p root leaf found
        (.error (.rootMismatch root (Frontier.digest h p found p.levels) p.size))
  | nodeMissing {level : Nat} (hformed : p.WellFormed found) (hpartials : p.HasPartials found)
      (htop : p.LeadsTo h found root) (hlevel : level < p.depth)
      (hcomplete : p.isComplete (p.siblingAt level).address = true)
      (habsent : found (p.siblingAt level).address = none)
      (hlowest : ∀ l < level, p.isComplete (p.siblingAt l).address = true →
        found (p.siblingAt l).address ≠ none) :
      Resolution h p root leaf found (.error (.nodeMissing (p.siblingAt level).address))
  | proved (hformed : p.WellFormed found) (hpartials : p.HasPartials found)
      (htop : p.LeadsTo h found root) (hnodes : p.HasNodes found) :
      Resolution h p root leaf found
        (.ok ⟨root, leaf, p.leaf, (List.range p.depth).map (p.siblingDigest h found)⟩)

/-- To prove against a digest, what was found is collected, the frontier rebuilt and the path read
off. -/
lemma resolve_eq_bind (hroot : isDigest root = true) :
    p.resolve h root leaf found = (do
      let fetched ← p.collect found
      let known ← p.frontier h root fetched
      let hashes ← p.nodes.mapM (nodeDigest known)
      return ⟨root, leaf, p.leaf, hashes⟩) := by
  rw [resolve, hroot]
  rfl

/-- A plan is resolved in one of the five ways. -/
lemma resolution_resolve (h : Hash) (p : Plan) (hroot : isDigest root = true) (leaf : Bytes)
    (found : Found) :
    Resolution h p root leaf found (p.resolve h root leaf found) := by
  rw [resolve_eq_bind hroot]
  by_cases hformed : p.WellFormed found
  · obtain ⟨fetched, hcollect, hfetched⟩ := collect_eq_ok hformed
    rw [hcollect, ok_bind]
    by_cases hpartials : p.HasPartials found
    · by_cases htop : p.LeadsTo h found root
      · obtain ⟨known, hfrontier, hready⟩ := frontier_eq_ok hfetched hpartials htop
        rw [hfrontier, ok_bind]
        by_cases hnodes : p.HasNodes found
        · rw [hready.nodes_eq_ok hnodes]
          exact .proved hformed hpartials htop hnodes
        · obtain ⟨level, hlevel, hcomplete, habsent, hlowest⟩ := exists_lowest_node hnodes
          rw [hready.nodes_absent hlevel hcomplete habsent hlowest]
          exact .nodeMissing hformed hpartials htop hlevel hcomplete habsent hlowest
      · rw [LeadsTo, Classical.not_imp] at htop
        rw [frontier_mismatch hfetched htop.1 hpartials htop.2]
        exact .rootMismatch hformed hpartials htop.1 htop.2
    · obtain ⟨level, a, ha, habsent, hlowest⟩ := exists_lowest_partial hpartials
      rw [frontier_absent hfetched ha habsent hlowest]
      exact .partialMissing hformed (mem_partials.1 ha).1 ha habsent hlowest
  · obtain ⟨a, ha, d, hfound, hd, hcollect⟩ := collect_eq_error hformed
    rw [hcollect]
    exact .malformed ha hfound hd

/-- Where none of the other ways applies, there is a proof. -/
lemma resolve_eq_ok (hroot : isDigest root = true) (hformed : p.WellFormed found)
    (hpartials : p.HasPartials found) (htop : p.LeadsTo h found root) (hnodes : p.HasNodes found)
    (leaf : Bytes) :
    p.resolve h root leaf found
      = .ok ⟨root, leaf, p.leaf, (List.range p.depth).map (p.siblingDigest h found)⟩ := by
  have hresolution := resolution_resolve h p hroot leaf found
  generalize p.resolve h root leaf found = outcome at hresolution
  cases hresolution with
  | malformed ha hfound hd => exact absurd (hformed _ ha _ hfound) (by rw [hd]; exact nofun)
  | partialMissing _ _ ha habsent => exact absurd habsent (hpartials _ _ ha)
  | rootMismatch _ _ hbalanced hother => exact absurd (htop hbalanced) hother
  | nodeMissing _ _ _ hlevel hcomplete habsent => exact absurd habsent (hnodes _ hlevel hcomplete)
  | proved => rfl

/-- Where nothing was found, the lowest partial is reported. -/
lemma resolve_of_nothing (hroot : isDigest root = true) (ha : (level, a) ∈ p.partials)
    (hlowest : ∀ l b, (l, b) ∈ p.partials → level ≤ l) (leaf : Bytes) :
    p.resolve h root leaf (fun _ => none) = .error (.partialMissing a) := by
  have hformed : p.WellFormed fun _ => none := fun _ _ _ hfound => by cases hfound
  obtain ⟨fetched, hcollect, hfetched⟩ := collect_eq_ok hformed
  have hfrontier : p.frontier h root fetched = .error (.partialMissing a) :=
    frontier_absent hfetched ha rfl fun l b hb hl => absurd hl (hlowest l b hb).not_gt
  rw [resolve_eq_bind hroot, hcollect, ok_bind, hfrontier, error_bind]

/-! ## What follows for every plan -/

/-- The level of what a plan asks for is no larger than its leaf, and the leaf not than the size. -/
lemma natAbs_of_mem_query (ha : a ∈ p.query) :
    a.level.natAbs ≤ a.leaf.natAbs ∧ a.leaf.natAbs ≤ p.size := by
  obtain ⟨b, rfl, hstop⟩ := exists_block_of_mem_query ha
  have hlevel : b.level < b.stop := by
    rw [b.stop_eq]
    exact Nat.lt_add_left _ Nat.lt_two_pow_self
  rw [Block.address_eq]
  dsimp only
  omega

/-- An address that a plan asks for can be named if its leaf can be written. -/
lemma isWritable_iff_of_mem_query (ha : a ∈ p.query) :
    (Text.isWritable a.level = true ∧ Text.isWritable a.leaf = true) ↔
      Text.isWritable a.leaf = true :=
  and_iff_right_of_imp fun hleaf => Text.isWritable_mono hleaf (natAbs_of_mem_query ha).1

namespace Resolution

variable {cause : Error} {proof : Proof}

/-- A cause names something that was asked for, or reports the size. -/
lemma mem_query_or_size (hresolution : Resolution h p root leaf found (.error cause)) :
    (∃ a ∈ p.query, cause = .malformedNode a ∨ cause = .partialMissing a ∨ cause = .nodeMissing a) ∨
      ∃ computed, cause = .rootMismatch root computed p.size := by
  cases hresolution with
  | malformed ha => exact Or.inl ⟨_, ha, Or.inl rfl⟩
  | partialMissing _ hbalanced ha =>
    obtain ⟨-, hbit, rfl⟩ := mem_partials.1 ha
    exact Or.inl ⟨_, partialAt_mem_query hbalanced hbit, Or.inr (Or.inl rfl)⟩
  | rootMismatch => exact Or.inr ⟨_, rfl⟩
  | nodeMissing _ _ _ hlevel hcomplete =>
    exact Or.inl ⟨_, siblingAt_mem_query hlevel hcomplete, Or.inr (Or.inr rfl)⟩

lemma leaf_lt_of_malformed
    (hresolution : Resolution h p root leaf found (.error (.malformedNode a))) :
    a.leaf < p.size := by
  cases hresolution with
  | malformed ha => exact leaf_lt_of_mem_query ha

lemma leaf_lt_of_missing (hresolution : Resolution h p root leaf found (.error (.nodeMissing a))) :
    a.leaf < p.size := by
  cases hresolution with
  | nodeMissing _ _ _ _ hcomplete => exact of_decide_eq_true hcomplete

/-- The leaf decides whether what is wrong at an address can be told. -/
lemma isExpressible_iff_leaf (hresolution : Resolution h p root leaf found (.error cause))
    (hcause : cause = .malformedNode a ∨ cause = .partialMissing a ∨ cause = .nodeMissing a) :
    cause.isExpressible = true ↔ Text.isWritable a.leaf = true := by
  have ha : a ∈ p.query := by
    rcases hresolution.mem_query_or_size with ⟨b, hb, hcause'⟩ | ⟨computed, rfl⟩
    · have hsame : b = a := by
        rcases hcause with rfl | rfl | rfl <;> simpa [eq_comm] using hcause'
      exact hsame ▸ hb
    · simp at hcause
  rw [Error.isExpressible_iff, ← isWritable_iff_of_mem_query ha]
  rcases hcause with rfl | rfl | rfl <;> simp [Error.integers]

/-- The size decides whether another root than the expected one can be told. -/
lemma isExpressible_iff_size {computed : Bytes} :
    (Error.rootMismatch root computed p.size).isExpressible = true ↔
      Text.isWritable p.size = true := by
  rw [Error.isExpressible_iff]
  simp [Error.integers]

/-- At a size that can be written, every cause can be told. -/
lemma isExpressible (hresolution : Resolution h p root leaf found (.error cause))
    (hsize : Text.isWritable p.size = true) : cause.isExpressible = true := by
  rcases hresolution.mem_query_or_size with ⟨a, ha, hcause⟩ | ⟨computed, rfl⟩
  · rw [hresolution.isExpressible_iff_leaf hcause]
    exact Text.isWritable_mono hsize (natAbs_of_mem_query ha).2
  · exact isExpressible_iff_size.2 hsize

/-- A proof has a hash for every level, and of the nodes that were complete at the size the one
found. -/
lemma hashes (hresolution : Resolution h p root leaf found (.ok proof)) :
    proof.hashes.length = p.nodes.length ∧
      ∀ (k : Nat) a d, p.nodes[k]? = some a → proof.hashes[k]? = some d → a.leaf < p.size →
        found a = some d := by
  cases hresolution with
  | proved _ _ _ hnodes =>
    refine ⟨by simp [nodes], fun k a d ha hd hleaf => ?_⟩
    rw [nodes, List.getElem?_map, Option.map_eq_some_iff] at ha
    obtain ⟨level, hlevel, rfl⟩ := ha
    rw [List.getElem?_map, hlevel, Option.map_some, Option.some_inj] at hd
    have hcomplete : p.isComplete (p.siblingAt level).address = true := decide_eq_true hleaf
    have hdepth := List.mem_range.1 (List.mem_of_getElem? hlevel)
    obtain ⟨e, he⟩ := Option.ne_none_iff_exists'.1 (hnodes level hdepth hcomplete)
    rw [siblingDigest, if_pos hcomplete, he, Option.getD_some] at hd
    rw [he, hd]

end Resolution

/-- Whatever was found, a plan is resolved in the first of the five ways that applies.  No cause
names a node past the size, where all digests are rebuilt.  A cause is told unless the leaf that it
names, or the size that it reports, is too long to be written. -/
theorem resolve_first_applicable (h : Hash) {index size : Int} (hp : make index size = .ok p)
    (hroot : isDigest root = true) (leaf : Bytes) (found : Found) :
    Resolution h p root leaf found (p.resolve h root leaf found) ∧
    (∀ a, p.resolve h root leaf found = .error (.malformedNode a) ∨
      p.resolve h root leaf found = .error (.nodeMissing a) → a.leaf < size) ∧
    (∀ a, p.resolve h root leaf found ≠ .error (.frontierUnknown a)) ∧
    (∀ proof, p.resolve h root leaf found = .ok proof →
      proof.hashes.length = p.nodes.length ∧
      ∀ (k : Nat) a d, p.nodes[k]? = some a → proof.hashes[k]? = some d → a.leaf < size →
        found a = some d) ∧
    (∀ found' : Found, (∀ a ∈ p.query, found' a = found a) →
      p.resolve h root leaf found' = p.resolve h root leaf found) ∧
    ∀ cause, p.resolve h root leaf found = .error cause →
      (Text.isWritable size = true → cause.isExpressible = true) ∧
      (∀ a, cause = .malformedNode a ∨ cause = .partialMissing a ∨ cause = .nodeMissing a →
        (cause.isExpressible = true ↔ Text.isWritable a.leaf = true)) ∧
      ∀ computed, cause = .rootMismatch root computed p.size →
        (cause.isExpressible = true ↔ Text.isWritable size = true) := by
  obtain rfl := size_of_make_eq_ok hp
  have hresolution := resolution_resolve h p hroot leaf found
  refine ⟨hresolution, ?_, ?_, ?_, fun found' => resolve_congr, ?_⟩
  · rintro a (ha | ha)
    · rw [ha] at hresolution
      exact hresolution.leaf_lt_of_malformed
    · rw [ha] at hresolution
      exact hresolution.leaf_lt_of_missing
  · intro a ha
    rw [ha] at hresolution
    cases hresolution
  · intro proof hproof
    rw [hproof] at hresolution
    exact hresolution.hashes
  · intro cause hcause
    rw [hcause] at hresolution
    refine ⟨hresolution.isExpressible, fun a => hresolution.isExpressible_iff_leaf, ?_⟩
    rintro computed rfl
    exact Resolution.isExpressible_iff_size

theorem resolve_first_applicable_second :
    ∃ p, make 1 3 = .ok p ∧ p.partials = [(1, ⟨1, 1⟩), (0, ⟨0, 2⟩)] ∧
      p.resolve Sha256.hash zeroDigest zeroDigest (fun _ => none)
        = .error (.partialMissing ⟨0, 2⟩) := by
  have hp : make 1 3 = .ok ⟨1, 3, by decide⟩ := rfl
  have hpartials : partials ⟨1, 3, by decide⟩ = [(1, ⟨1, 1⟩), (0, ⟨0, 2⟩)] := by decide
  obtain ⟨hresolution, -⟩ := resolve_first_applicable Sha256.hash hp
    (show isDigest zeroDigest = true by decide) zeroDigest fun _ => none
  refine ⟨_, hp, hpartials, ?_⟩
  have hlow : (0, ⟨0, 2⟩) ∈ partials ⟨1, 3, by decide⟩ := by simp [hpartials]
  generalize resolve Sha256.hash _ _ _ _ = outcome at hresolution ⊢
  cases hresolution with
  | malformed _ hfound => cases hfound
  | @partialMissing level a _ _ ha _ hlowest =>
    -- nothing is reported above the lowest partial
    obtain rfl : level = 0 := by
      by_contra hlevel
      exact hlowest 0 _ hlow (Nat.pos_of_ne_zero hlevel) rfl
    obtain rfl : a = ⟨0, 2⟩ := by simpa [hpartials] using ha
    rfl
  | rootMismatch _ hfound => exact absurd rfl (hfound 0 _ hlow)
  | nodeMissing _ hfound => exact absurd rfl (hfound 0 _ hlow)
  | proved _ hfound => exact absurd rfl (hfound 0 _ hlow)

/-- The first leaf, against a size of too many digits. -/
def long : Plan where
  leaf := 0
  size := 10 ^ Text.maxDigits + 1
  leaf_lt_size := Nat.succ_pos _

/-- With nothing found, the lowest partial of a size of too many digits is absent, and cannot be
named. -/
theorem resolve_long :
    make 0 (10 ^ Text.maxDigits + 1) = .ok long ∧
      ∃ cause, long.resolve Sha256.hash zeroDigest zeroDigest (fun _ => none) = .error cause ∧
        cause = .partialMissing ⟨0, 10 ^ Text.maxDigits⟩ ∧ cause.isExpressible = false ∧
        cause.message = Error.inexpressible := by
  have hp : make 0 (10 ^ Text.maxDigits + 1) = .ok long := by
    exact_mod_cast make_eq long.leaf_lt_size
  have hpartial : (0, ⟨0, 10 ^ Text.maxDigits⟩) ∈ long.partials :=
    mem_partials.2 ⟨by decide +kernel, by decide +kernel, by decide +kernel⟩
  have hmissing : long.resolve Sha256.hash zeroDigest zeroDigest (fun _ => none)
      = .error (.partialMissing ⟨0, 10 ^ Text.maxDigits⟩) :=
    resolve_of_nothing (by decide) hpartial (fun _ _ _ => Nat.zero_le _) _
  have hlong : (Error.partialMissing ⟨0, 10 ^ Text.maxDigits⟩).isExpressible = false := by
    decide +kernel
  exact ⟨hp, _, hmissing, rfl, hlong, Error.message_of_not_expressible hlong⟩

end Plan

end MerkleLog

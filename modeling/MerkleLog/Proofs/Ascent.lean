import MerkleLog.Hash.Sha256
import MerkleLog.Proofs.Frontier
import MerkleLog.Proofs.Root
import MerkleLog.Resolve

/-!
# The ascent to the root

The frontier is climbed for as long as the node reached stands below the top of the tree.  Such an
ascent has one number of steps and one end.  At every level above the base it knows the digest of
the tree that the partials below span, filled up with empty positions to the size of the frontier
block; so at the top it knows the digest of the tree that all partials span.
-/

namespace MerkleLog

/-- Slots for the bits of a plan's size, each with the digest that is given for its level. -/
def Plan.slots (p : Plan) (digests : Nat → Bytes) : List (Option Bytes) :=
  (List.range p.levels).map fun level =>
    if p.size.testBit level then some (digests level) else none

namespace Frontier

variable {h : Hash} {p : Plan} {found : Found} {known last last' : Known} {node top top' : Address}
  {level count count' lag : Nat} {digests : Nat → Bytes}

/-! ## Rising until the top is reached -/

/-- Rising from a frontier node for as long as it stands below the top: the number of steps, and
what is known and which node is reached in the end. -/
inductive Ascends (h : Hash) (p : Plan) : Known → Address → Nat → Known → Address → Prop
  | arrived {known : Known} {node : Address} (hnode : p.levels ≤ node.level) :
      Ascends h p known node 0 known node
  | rises {known next last : Known} {node above top : Address} {count : Nat}
      (hnode : node.level < p.levels) (hrise : rise h p known node = .ok (next, above))
      (hrest : Ascends h p next above count last top) : Ascends h p known node (count + 1) last top

namespace Ascends

/-- An ascent has one number of steps and one end. -/
lemma unique (hascends : Ascends h p known node count last top)
    (hascends' : Ascends h p known node count' last' top') :
    count' = count ∧ last' = last ∧ top' = top := by
  induction hascends generalizing count' with
  | arrived hnode =>
    cases hascends' with
    | arrived => exact ⟨rfl, rfl, rfl⟩
    | rises hnode' => exact absurd hnode hnode'.not_ge
  | rises hnode hrise _ ih =>
    cases hascends' with
    | arrived hnode' => exact absurd hnode' hnode.not_ge
    | rises _ hrise' hrest' =>
      obtain ⟨rfl, rfl⟩ := Prod.mk.inj (Except.ok.inj (hrise.symm.trans hrise'))
      obtain ⟨rfl, rfl, rfl⟩ := ih hrest'
      exact ⟨rfl, rfl, rfl⟩

/-- Climbing as many levels as an ascent has steps ends where the ascent does. -/
lemma climb_eq (hascends : Ascends h p known node count last top) :
    climb h p count known node = (digestOf last top).map (last, ·) := by
  induction hascends with
  | @arrived known node _ =>
    rw [climb]
    cases digestOf known node <;> rfl
  | rises _ hrise _ ih =>
    rw [climb, hrise, ok_bind]
    exact ih

end Ascends

/-- With all partials, the ascent has a step for every level that is left. -/
lemma Climbed.exists_ascends (hknown : Climbed h p found level known) (hlevel : base p ≤ level)
    (hbalanced : p.balanced = false)
    (hpartials : ∀ l, p.size.testBit l = true → found (p.partialAt l) ≠ none)
    (hcount : level + count = p.levels) :
    ∃ last, Ascends h p known (block p level).address count last (block p p.levels).address ∧
      Climbed h p found p.levels last := by
  induction count generalizing level known with
  | zero =>
    obtain rfl : level = p.levels := hcount
    exact ⟨known, .arrived le_rfl, hknown⟩
  | succ count ih =>
    obtain ⟨next, hrise, hnext⟩ := hknown.rise_eq_ok hlevel hbalanced (hpartials level)
    obtain ⟨last, hrest, hlast⟩ := ih hnext (hlevel.trans (Nat.le_succ level)) (by omega)
    have hbelow : (block p level).address.level < p.levels :=
      Int.ofNat_lt.2 (by omega : level < p.levels)
    exact ⟨last, .rises hbelow hrise hrest, hlast⟩

/-! ## The lowest bit and the highest -/

/-- The base is the number of zero bits that the size ends in. -/
lemma not_two_pow_dvd_size (p : Plan) : ¬2 ^ (base p + 1) ∣ p.size := by
  obtain ⟨-, hbit, -⟩ := base_spec p
  rintro ⟨q, hq⟩
  rw [hq, Nat.pow_succ, Nat.mul_assoc, Nat.testBit_two_pow_mul] at hbit
  simp at hbit

lemma testBit_top (p : Plan) : p.size.testBit (p.levels - 1) = true := by
  rw [p.levels_eq, Nat.add_sub_cancel]
  exact Nat.testBit_log2 p.size_pos.ne'

/-- A size that is no power of two has a bit above its lowest. -/
lemma base_succ_lt (hbalanced : p.balanced = false) : base p + 1 < p.levels := by
  obtain ⟨hbase, -, -⟩ := base_spec p
  refine lt_of_le_of_ne hbase fun htop => ?_
  rw [← Bool.not_eq_true, Plan.balanced_iff] at hbalanced
  have hlog : Nat.log2 p.size = base p := by
    rw [p.levels_eq] at htop
    omega
  obtain ⟨q, hq⟩ := two_pow_dvd_size (p := p) le_rfl
  have hhigh := p.size_lt_two_pow_levels
  rw [← htop, hq, Nat.pow_succ] at hhigh
  have hone : q = 1 := by
    have hpos := p.size_pos
    rw [hq] at hpos
    have hne : q ≠ 0 := by
      rintro rfl
      omega
    have := Nat.lt_of_mul_lt_mul_left hhigh
    omega
  rw [hone, Nat.mul_one] at hq
  exact hbalanced (hlog.symm ▸ hq)

/-! ## Folding the partials along the ascent -/

/-- Above the base, the fold of the partials goes from the digest of one frontier block to that of
the next. -/
lemma exists_ofPartialsFrom_above
    (hdigests : ∀ l, p.size.testBit l = true → digests l ≠ zeroDigest)
    (hfound : ∀ l, p.size.testBit l = true → found (p.partialAt l) = some (digests l))
    (hcount : level + count = p.levels) (hlevel : base p < level) {t : Tree}
    (hlag : count = 0 → lag = 0) (ht : (Tree.widen lag t).digest h = digest h p found level) :
    ∃ t', Tree.ofPartialsFrom level (some (t, lag)) ((List.range' level count).map fun l =>
        if p.size.testBit l then some (digests l) else none) = some t' ∧
      t'.digest h = digest h p found p.levels := by
  induction count generalizing level lag t with
  | zero =>
    obtain rfl : level = p.levels := hcount
    rw [hlag rfl, Tree.widen] at ht
    exact ⟨t, rfl, ht⟩
  | succ count ih =>
    rw [List.range'_succ, List.map_cons]
    cases hbit : p.size.testBit level with
    | true =>
      rw [if_pos rfl, Tree.ofPartialsFrom_join level lag t (hdigests level hbit)]
      refine ih (by omega) (hlevel.trans (Nat.lt_succ_self level)) (fun _ => rfl) ?_
      rw [Tree.widen, Tree.digest, Tree.digest_complete, ht,
        digest_succ_of_set hlevel.le hbit (hfound level hbit)]
    | false =>
      rw [if_neg Bool.false_ne_true]
      have hwidened : (Tree.widen (lag + 1) t).digest h = digest h p found (level + 1) := by
        rw [Tree.widen_succ, Tree.digest, ht, Tree.digest, digest_succ_of_clear hlevel.le hbit]
      refine ih (by omega) (hlevel.trans (Nat.lt_succ_self level)) (fun hnone => ?_) hwidened
      -- the highest level has a bit
      have htop : p.levels - 1 = level := by omega
      rw [← htop, testBit_top] at hbit
      cases hbit

/-- Up to the base there is nothing to fold; the lowest partial starts the tree. -/
lemma exists_ofPartialsFrom (hbalanced : p.balanced = false)
    (hdigests : ∀ l, p.size.testBit l = true → digests l ≠ zeroDigest)
    (hfound : ∀ l, p.size.testBit l = true → found (p.partialAt l) = some (digests l))
    (hcount : level + count = p.levels) (hlevel : level ≤ base p) :
    ∃ t, Tree.ofPartialsFrom level none ((List.range' level count).map fun l =>
        if p.size.testBit l then some (digests l) else none) = some t ∧
      t.digest h = digest h p found p.levels := by
  obtain ⟨hbase, hbit, hclear⟩ := base_spec p
  induction count generalizing level with
  | zero => omega
  | succ count ih =>
    rw [List.range'_succ, List.map_cons]
    rcases Nat.eq_or_lt_of_le hlevel with rfl | hlt
    · have hroom := base_succ_lt hbalanced
      rw [if_pos hbit, Tree.ofPartialsFrom_first _ (hdigests _ hbit)]
      refine exists_ofPartialsFrom_above hdigests hfound (by omega) (Nat.lt_succ_self _)
        (fun hnone => by omega) ?_
      rw [Tree.widen, Tree.widen, Tree.digest, Tree.digest_complete, Tree.digest,
        digest_succ_of_set le_rfl hbit (hfound _ hbit), digest_of_le le_rfl]
    · rw [if_neg (by rw [hclear level hlt]; exact Bool.false_ne_true)]
      exact ih (by omega) hlt

/-- At the top of the tree stands the digest of the tree that the partials span. -/
lemma digest_ofPartials (hbalanced : p.balanced = false)
    (hdigests : ∀ l, p.size.testBit l = true → digests l ≠ zeroDigest)
    (hfound : ∀ l, p.size.testBit l = true → found (p.partialAt l) = some (digests l)) :
    (Tree.ofPartials (p.slots digests)).digest h = digest h p found p.levels := by
  obtain ⟨t, ht, hdigest⟩ := exists_ofPartialsFrom (h := h) hbalanced hdigests hfound
    (Nat.zero_add _) (Nat.zero_le _)
  rw [Tree.ofPartials, Plan.slots, List.range_eq_range', ht, Option.getD_some, hdigest]

/-- From partials that are all known and none of them the zero digest, the ascent takes a step for
every level from the lowest bit of the size upward, and ends with the digest of the tree that they
span.  This is the root to which the frontier leads, and any other is refused. -/
theorem ascends_to_ofPartials (h : Hash) (p : Plan) (hsize : ∀ k, p.size ≠ 2 ^ k)
    (hdigests : ∀ level, p.size.testBit level = true → digests level ≠ zeroDigest)
    (hknown : ∀ level a, (level, a) ∈ p.partials → known[a]? = some (digests level)) :
    ∃ m last top, 2 ^ m ∣ p.size ∧ ¬2 ^ (m + 1) ∣ p.size ∧
      (∀ count last' top',
        Ascends h p (known.insert (start p) zeroDigest) (start p) count last' top' ↔
          count = bitLength p.size - m ∧ last' = last ∧ top' = top) ∧
      last[top]? = some ((Tree.ofPartials (p.slots digests)).digest h) ∧
      rebuild h p known = .ok (last, (Tree.ofPartials (p.slots digests)).digest h) ∧
      ∀ root, p.frontier h root known
        = if root = (Tree.ofPartials (p.slots digests)).digest h then .ok last
          else
            .error (.rootMismatch root ((Tree.ofPartials (p.slots digests)).digest h) p.size) := by
  have hbalanced : p.balanced = false := by
    rw [← Bool.not_eq_true, Plan.balanced_iff]
    exact hsize _
  have hfound : ∀ l, p.size.testBit l = true → known[p.partialAt l]? = some (digests l) :=
    fun l hbit => hknown l _ (Plan.mem_partials.2 ⟨hbalanced, hbit, rfl⟩)
  have hpartials : ∀ l, p.size.testBit l = true → known[p.partialAt l]? ≠ none := by
    intro l hbit
    rw [hfound l hbit]
    exact Option.some_ne_none _
  obtain ⟨hbase, -, -⟩ := base_spec p
  have hstart : Climbed h p (fun a => known[a]?) (base p)
      (known.insert (block p (base p)).address zeroDigest) := climbed_start fun _ _ => rfl
  obtain ⟨last, hascends, hlast⟩ :=
    hstart.exists_ascends le_rfl hbalanced hpartials (Nat.add_sub_cancel' hbase.le)
  rw [← start_eq] at hascends
  have htop : last[(block p p.levels).address]?
      = some ((Tree.ofPartials (p.slots digests)).digest h) := by
    rw [digest_ofPartials hbalanced hdigests hfound]
    exact hlast.node _ hbase.le le_rfl
  have hrebuild : rebuild h p known
      = .ok (last, (Tree.ofPartials (p.slots digests)).digest h) := by
    rw [rebuild, hascends.climb_eq, digestOf, htop]
    rfl
  refine ⟨base p, last, _, two_pow_dvd_size le_rfl, not_two_pow_dvd_size p,
    fun count last' top' => ⟨hascends.unique, ?_⟩, htop, hrebuild, fun root => ?_⟩
  · rintro ⟨rfl, rfl, rfl⟩
    exact hascends
  · rw [Plan.frontier, hbalanced, if_neg Bool.false_ne_true, hrebuild, ok_bind]
    dsimp only
    split_ifs with hne heq heq
    · exact absurd heq.symm hne
    · rfl
    · rfl
    · exact absurd (not_not.1 hne).symm heq

/-- The plan for the third of six leaves. -/
def ofSix : Plan := ⟨2, 6, by decide⟩

/-- A digest for each level. -/
def ofLevel (level : Nat) : Bytes := List.replicate digestSize (if level = 1 then 1 else 2)

/-- The digests of the two partials. -/
def knownOfSix : Known :=
  ((∅ : Known).insert ⟨1, 5⟩ (ofLevel 1)).insert ⟨2, 3⟩ (ofLevel 2)

lemma getElem?_knownOfSix : ∀ level a, (level, a) ∈ ofSix.partials →
    knownOfSix[a]? = some (ofLevel level) := by
  intro level a hmem
  have hpartials : ofSix.partials = [(2, ⟨2, 3⟩), (1, ⟨1, 5⟩)] := by decide
  rw [hpartials, List.mem_cons, List.mem_singleton] at hmem
  rw [knownOfSix, Std.HashMap.getElem?_insert]
  rcases hmem with hmem | hmem <;> obtain ⟨rfl, rfl⟩ := Prod.mk.inj hmem
  · exact if_pos rfl
  · rw [if_neg (by decide)]
    exact Std.HashMap.getElem?_insert_self

theorem ascends_to_ofPartials_six :
    ∃ (last : Known) (top : Address),
      Ascends Sha256.hash ofSix (knownOfSix.insert ⟨1, 7⟩ zeroDigest) ⟨1, 7⟩ 2 last top ∧
      last[top]? = some ((Tree.ofPartials [none, some (ofLevel 1), some (ofLevel 2)]).digest
        Sha256.hash) := by
  have hsize : ∀ k, ofSix.size ≠ 2 ^ k := by
    intro k hk
    have hsix : ofSix.balanced = false := by decide
    rw [← Bool.not_eq_true, Plan.balanced_iff, hk, Nat.log2_two_pow] at hsix
    exact hsix rfl
  have hdigests : ∀ level, ofLevel level ≠ zeroDigest := by
    intro level
    unfold ofLevel
    split_ifs <;> decide
  obtain ⟨m, last, top, hdvd, hndvd, hascends, htop, -, -⟩ :=
    ascends_to_ofPartials Sha256.hash ofSix hsize (fun level _ => hdigests level)
      getElem?_knownOfSix
  have hm : m = 1 := by
    rcases m with - | - | m
    · exact absurd (by decide) hndvd
    · rfl
    · exact absurd ((Nat.pow_dvd_pow 2 (by omega : 2 ≤ m + 1 + 1)).trans hdvd) (by decide)
  subst hm
  exact ⟨last, top, (hascends 2 last top).2 ⟨rfl, rfl, rfl⟩, htop⟩

end Frontier

end MerkleLog

import MerkleLog.Proofs.Climb
import MerkleLog.Proofs.Ledger
import MerkleLog.Proofs.Resolution

/-!
# Proofs against past sizes

A ledger can prove each of its leaves against the root of every size that it has had since the leaf
was appended.  The plan for a size asks for blocks that were complete at the size, and those never
change; the index of any later size answers with their digests.
-/

namespace MerkleLog

namespace Plan

variable {h : Hash} {leaves : List Bytes} {p : Plan} {found : Found} {level : Nat}

/-- An answer has the digest of a block for all that a plan asks for. -/
lemma exists_of_answers (hfound : Frontier.Answers h leaves p found) {a : Address}
    (ha : a ∈ p.query) : ∃ b : Block, found a = some (b.digest h leaves) := by
  obtain ⟨b, rfl, hstop⟩ := exists_block_of_mem_query ha
  exact ⟨b, hfound b ha hstop⟩

lemma siblingDigest_eq (hsize : leaves.length = p.size)
    (hfound : Frontier.Answers h leaves p found) (hlevel : level < p.depth) :
    p.siblingDigest h found level = (p.siblingAt level).digest h leaves := by
  rw [siblingDigest]
  by_cases hcomplete : p.isComplete (p.siblingAt level).address = true
  · have hmem := siblingAt_mem_query hlevel hcomplete
    rw [if_pos hcomplete, hfound _ hmem ((isComplete_address _).1 hcomplete), Option.getD_some]
  · have hreach : p.size < (p.siblingAt level).stop := by
      rwa [isComplete_address, not_le] at hcomplete
    have hbalanced : p.balanced = false := by
      rw [← Bool.not_eq_true]
      exact fun hbalanced => hreach.not_ge (stop_siblingAt_of_balanced hbalanced hlevel)
    rw [if_neg hcomplete, Frontier.pastDigest_eq hsize hbalanced hfound hreach]

/-- With an answer to its query, a plan is resolved to the path of its leaf. -/
lemma resolve_eq (hleaves : ∀ d ∈ leaves, isDigest d) (hsize : leaves.length = p.size)
    (hfound : Frontier.Answers h leaves p found) (leaf : Bytes) :
    p.resolve h ((Tree.ofLeaves leaves).digest h) leaf found
      = .ok ⟨(Tree.ofLeaves leaves).digest h, leaf, p.leaf,
          Block.path h leaves p.leaf (Tree.depthFor leaves.length)⟩ := by
  have hroot : isDigest ((Tree.ofLeaves leaves).digest h) = true := by
    rw [Block.ofLeaves_eq_tree]
    exact Block.isDigest_digest hleaves
  have hformed : p.WellFormed found := by
    intro a ha d hd
    obtain ⟨b, hb⟩ := exists_of_answers hfound ha
    obtain rfl := Option.some.inj (hb.symm.trans hd)
    exact Block.isDigest_digest hleaves
  have hpartials : p.HasPartials found := by
    intro level a ha
    obtain ⟨hbalanced, hbit, rfl⟩ := mem_partials.1 ha
    obtain ⟨b, hb⟩ := exists_of_answers hfound (partialAt_mem_query hbalanced hbit)
    exact Option.ne_none_iff_exists'.2 ⟨_, hb⟩
  have hnodes : p.HasNodes found := by
    intro level hlevel hcomplete
    obtain ⟨b, hb⟩ := exists_of_answers hfound (siblingAt_mem_query hlevel hcomplete)
    exact Option.ne_none_iff_exists'.2 ⟨_, hb⟩
  have htop : p.LeadsTo h found ((Tree.ofLeaves leaves).digest h) := fun hbalanced =>
    Frontier.digest_levels hsize hbalanced hfound
  have hhashes : (List.range p.depth).map (p.siblingDigest h found)
      = Block.path h leaves p.leaf (Tree.depthFor leaves.length) := by
    rw [hsize, ← p.depth_eq]
    exact List.map_congr_left fun level hlevel =>
      siblingDigest_eq hsize hfound (List.mem_range.1 hlevel)
  rw [resolve_eq_ok hroot hformed hpartials htop hnodes, hhashes]

end Plan

namespace Ledger

variable {h : Hash} {leaves : List Bytes} {l : Ledger} {i n : Nat}

/-- The index of a ledger answers the plans for all sizes up to its own. -/
lemma Records.find (hl : Records h leaves leaves.length l) (hn : n ≤ leaves.length)
    (hmax : leaves.length ≤ maxWord) {p : Plan} (hp : p.size = n) :
    ∃ found, l.store.find p.query = .ok found ∧
      Frontier.Answers h (leaves.take n) p found := by
  have hfits : ∀ a ∈ p.query, a.fits := by
    intro a ha
    obtain ⟨b, rfl, hstop⟩ := Plan.exists_block_of_mem_query ha
    exact Block.fits_address (by omega)
  obtain ⟨found, hfound, hget⟩ := l.store.find_of_fits hfits
  refine ⟨found, hfound, fun b hb hstop => ?_⟩
  rw [hp] at hstop
  rw [hget _ hb, hl.nodes, Block.digest_take hstop]
  exact ⟨b, hstop.trans hn, rfl, rfl⟩

/-- A ledger proves each of its leaves against every size at which it was there. -/
lemma Records.build_eq (hl : Records h leaves leaves.length l) (hleaves : ∀ d ∈ leaves, isDigest d)
    (hmax : leaves.length ≤ maxWord) (hn : n ≤ leaves.length) (hi : i < n) :
    Proof.build h i leaves[i] ((Tree.ofLeaves (leaves.take n)).digest h) n l.store.find
      = .ok ⟨(Tree.ofLeaves (leaves.take n)).digest h, leaves[i], i,
          Block.path h (leaves.take n) i (Tree.depthFor (leaves.take n).length)⟩ := by
  have hlength : (leaves.take n).length = n := List.length_take_of_le hn
  have hpast : ∀ d ∈ leaves.take n, isDigest d := fun d hd => hleaves d (List.mem_of_mem_take hd)
  rw [Proof.build, Plan.make_eq hi, ok_bind]
  -- nothing is looked up if the tree is a single leaf
  by_cases hempty : (⟨i, n, hi⟩ : Plan).query.isEmpty
  · rw [if_pos hempty]
    refine Plan.resolve_eq hpast hlength (fun b hb => ?_) _
    rw [List.isEmpty_iff.1 hempty] at hb
    exact absurd hb List.not_mem_nil
  · obtain ⟨found, hfound, hanswers⟩ := hl.find hn hmax (p := ⟨i, n, hi⟩) rfl
    rw [if_neg hempty, hfound, ok_bind]
    exact Plan.resolve_eq hpast hlength hanswers _

/-- A fresh ledger takes as many leaves as a log may have, and then proves every one of them
against every size at which it was there: the proof has the root of the smallest tree with the
leaves of that size and the path of the leaf in it, and is accepted. -/
theorem build_complete (h : Hash) (recordsHeads : Bool) (hleaves : ∀ d ∈ leaves, isDigest d) :
    (leaves.length ≤ maxWord →
      ∃ l, (ofStore .empty recordsHeads >>= fun l => l.appendAll h leaves) = .ok l) ∧
    ∀ l, (ofStore .empty recordsHeads >>= fun l => l.appendAll h leaves) = .ok l →
      ∀ (n i : Nat) (hn : n ≤ leaves.length) (hi : i < n),
        ∃ proof : Proof,
          Proof.build h i leaves[i] ((Tree.ofLeaves (leaves.take n)).digest h) n l.store.find
            = .ok proof ∧
          proof.root = (Tree.ofLeaves (leaves.take n)).digest h ∧
          proof.leaf = leaves[i] ∧ proof.index = i ∧
          (Tree.ofLeaves (leaves.take n)).prove h i = some proof.hashes ∧
          proof.verify h = true := by
  rw [ofStore_empty]
  simp only [ok_bind]
  refine ⟨fun hmax => ?_, fun l hrun n i hn hi => ?_⟩
  · obtain ⟨l, hrun, -⟩ := appendAll_records (h := h) recordsHeads hleaves hmax
    exact ⟨l, hrun⟩
  · have hmax := length_le_of_appendAll hleaves hrun
    obtain ⟨l', hrun', hrecords, -⟩ := appendAll_records (h := h) recordsHeads hleaves hmax
    obtain rfl : l = l' := Except.ok.inj (hrun.symm.trans hrun')
    have hlength : (leaves.take n).length = n := List.length_take_of_le hn
    have hpast : ∀ d ∈ leaves.take n, isDigest d := fun d hd =>
      hleaves d (List.mem_of_mem_take hd)
    have hi' : i < (leaves.take n).length := hlength.symm ▸ hi
    have hleaf : (leaves.take n)[i] = leaves[i] := List.getElem_take
    exact ⟨_, hrecords.build_eq hleaves hmax hn hi, rfl, rfl, rfl, Block.prove_ofLeaves hi',
      hleaf ▸ Proof.verify_path hpast hi'⟩

theorem build_complete_threeLeaves :
    ∃ l proof,
      (ofStore .empty false >>= fun l => l.appendAll Sha256.hash Tree.threeLeaves) = .ok l ∧
      Proof.build Sha256.hash 1 (List.replicate digestSize 2)
        ((Tree.ofLeaves Tree.threeLeaves).digest Sha256.hash) 3 l.store.find = .ok proof ∧
      (Tree.ofLeaves Tree.threeLeaves).prove Sha256.hash 1 = some proof.hashes ∧
      proof.verify Sha256.hash = true := by
  obtain ⟨htakes, hproves⟩ := build_complete Sha256.hash false Tree.isDigest_threeLeaves
  obtain ⟨l, hrun⟩ := htakes (by decide)
  obtain ⟨proof, hbuild, -, -, -, hpath, hverify⟩ := hproves l hrun 3 1 (by decide) (by decide)
  exact ⟨l, proof, hrun, hbuild, hpath, hverify⟩

end Ledger

end MerkleLog

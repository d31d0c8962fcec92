import Mathlib.Data.List.Perm.Basic
import MerkleLog.Json.Canonical
import MerkleLog.Proofs.Json.RoundTrip

/-!
# Canonical texts

A value without real numbers has a canonical text exactly if its integers are all safe, and else it
is refused for one that is not.  The canonical text is read as the value with its members sorted:
the order of members is all that is lost.
-/

namespace MerkleLog.Json

variable {d : Dialect} {v : Json} {depth : Nat} {n : Int} {items : List Json}
  {members : List (String × Json)}

/-! ## Sorting -/

lemma sortedItems_eq_map (items : List Json) : sortedItems items = items.map sorted := by
  induction items with
  | nil => rfl
  | cons item items ih => rw [sortedItems, ih, List.map_cons]

lemma sortedMembers_eq_map (members : List (String × Json)) :
    sortedMembers members = members.map fun m => (m.1, sorted m.2) := by
  induction members with
  | nil => rfl
  | cons m members ih => rw [sortedMembers, ih, List.map_cons]

/-- The members of a sorted object are those of the object, each sorted within. -/
lemma perm_sortedMembers (members : List (String × Json)) :
    ((sortedMembers members).mergeSort memberLE).Perm (members.map fun m => (m.1, sorted m.2)) := by
  rw [← sortedMembers_eq_map]
  exact List.mergeSort_perm _ _

lemma Plain.sorted (hv : Plain depth v) : Plain depth v.sorted := by
  induction hv with
  | null => exact .null _
  | bool => exact .bool _ _
  | int _ hn => exact .int _ hn
  | str => exact .str _ _
  | arr _ ih =>
    rw [Json.sorted, sortedItems_eq_map]
    exact .arr (List.forall_mem_map.2 ih)
  | @obj depth members hnames _ ih =>
    have hperm := perm_sortedMembers members
    rw [Json.sorted]
    constructor
    · rw [(hperm.map (·.1)).nodup_iff, List.map_map]
      exact hnames
    · intro m hm
      obtain ⟨m', hm', rfl⟩ := List.mem_map.1 (hperm.mem_iff.1 hm)
      exact ih m' hm'

/-- A value without real numbers. -/
inductive Whole : Json → Prop
  | null : Whole .null
  | bool (b : Bool) : Whole (.bool b)
  | int (n : Int) : Whole (.int n)
  | str (s : String) : Whole (.str s)
  | arr {items : List Json} (hitems : ∀ v ∈ items, Whole v) : Whole (.arr items)
  | obj {members : List (String × Json)} (hmembers : ∀ m ∈ members, Whole m.2) :
      Whole (.obj members)

lemma Whole.sorted (hv : Whole v) : Whole v.sorted := by
  induction hv with
  | null => exact .null
  | bool b => exact .bool b
  | int n => exact .int n
  | str s => exact .str s
  | arr _ ih =>
    rw [Json.sorted, sortedItems_eq_map]
    exact .arr (List.forall_mem_map.2 ih)
  | @obj members _ ih =>
    rw [Json.sorted]
    refine .obj fun m hm => ?_
    obtain ⟨m', hm', rfl⟩ := List.mem_map.1 ((perm_sortedMembers members).mem_iff.1 hm)
    exact ih m' hm'

/-- Sorting keeps the integers of a value. -/
lemma mem_integers_sorted (hv : Whole v) : n ∈ v.sorted.integers ↔ n ∈ v.integers := by
  induction hv with
  | null | bool | int | str => rw [Json.sorted]; all_goals exact nofun
  | arr _ ih =>
    simp only [Json.sorted, sortedItems_eq_map, integers, mem_integersOfItems, List.mem_map,
      exists_exists_and_eq_and]
    exact exists_congr fun v => and_congr_right fun hv => ih v hv
  | @obj members _ ih =>
    simp only [Json.sorted, integers, mem_integersOfMembers, (perm_sortedMembers members).mem_iff,
      List.mem_map, exists_exists_and_eq_and]
    exact exists_congr fun m => and_congr_right fun hm => ih m hm

/-! ## Which values are written -/

/-- A value is written, and its integers are safe, or it is refused for one that is not. -/
def Settled (v : Json) : Prop :=
  (∃ cs, compact v = .ok cs ∧ ∀ n ∈ v.integers, n.natAbs ≤ maxSafe) ∨
    ∃ n ∈ v.integers, maxSafe < n.natAbs ∧ compact v = .error (.unsafeInteger n)

lemma settled_items (hitems : ∀ v ∈ items, Settled v) :
    (∃ written, compactItems items = .ok written ∧
        ∀ n ∈ integersOfItems items, n.natAbs ≤ maxSafe) ∨
      ∃ n ∈ integersOfItems items, maxSafe < n.natAbs ∧
        compactItems items = .error (.unsafeInteger n) := by
  induction items with
  | nil => exact Or.inl ⟨[], rfl, nofun⟩
  | cons item items ih =>
    rw [List.forall_mem_cons] at hitems
    obtain ⟨hitem, hrest⟩ := hitems
    rw [compactItems, integersOfItems]
    rcases hitem with ⟨first, hfirst, hsafe⟩ | ⟨n, hn, hlarge, hfirst⟩
    · rw [hfirst, ok_bind]
      rcases ih hrest with ⟨written, hwritten, hsafe'⟩ | ⟨n, hn, hlarge, hwritten⟩
      · refine Or.inl ⟨first :: written, by rw [hwritten]; rfl, ?_⟩
        exact fun n hn => (List.mem_append.1 hn).elim (hsafe n) (hsafe' n)
      · exact Or.inr ⟨n, List.mem_append_right _ hn, hlarge, by rw [hwritten]; rfl⟩
    · exact Or.inr ⟨n, List.mem_append_left _ hn, hlarge, by rw [hfirst]; rfl⟩

lemma settled_members (hmembers : ∀ m ∈ members, Settled m.2) :
    (∃ written, compactMembers members = .ok written ∧
        ∀ n ∈ integersOfMembers members, n.natAbs ≤ maxSafe) ∨
      ∃ n ∈ integersOfMembers members, maxSafe < n.natAbs ∧
        compactMembers members = .error (.unsafeInteger n) := by
  induction members with
  | nil => exact Or.inl ⟨[], rfl, nofun⟩
  | cons m members ih =>
    obtain ⟨name, value⟩ := m
    rw [List.forall_mem_cons] at hmembers
    obtain ⟨hvalue, hrest⟩ := hmembers
    rw [compactMembers, integersOfMembers]
    rcases hvalue with ⟨first, hfirst, hsafe⟩ | ⟨n, hn, hlarge, hfirst⟩
    · rw [hfirst, ok_bind]
      rcases ih hrest with ⟨written, hwritten, hsafe'⟩ | ⟨n, hn, hlarge, hwritten⟩
      · refine Or.inl ⟨_ :: written, by rw [hwritten]; rfl, ?_⟩
        exact fun n hn => (List.mem_append.1 hn).elim (hsafe n) (hsafe' n)
      · exact Or.inr ⟨n, List.mem_append_right _ hn, hlarge, by rw [hwritten]; rfl⟩
    · exact Or.inr ⟨n, List.mem_append_left _ hn, hlarge, by rw [hfirst]; rfl⟩

lemma Whole.settled (hv : Whole v) : Settled v := by
  induction hv with
  | null => exact Or.inl ⟨_, by rw [compact], nofun⟩
  | bool b => exact Or.inl ⟨_, by rw [compact], nofun⟩
  | str s => exact Or.inl ⟨_, by rw [compact], nofun⟩
  | int n =>
    by_cases hsafe : n.natAbs ≤ maxSafe
    · refine Or.inl ⟨_, by rw [compact, if_pos hsafe], fun m hm => ?_⟩
      rw [integers, List.mem_singleton] at hm
      exact hm ▸ hsafe
    · refine Or.inr ⟨n, ?_, not_le.1 hsafe, by rw [compact, if_neg hsafe]⟩
      rw [integers, List.mem_singleton]
  | arr _ ih =>
    rw [Settled, compact, integers]
    rcases settled_items ih with ⟨written, hwritten, hsafe⟩ | ⟨n, hn, hlarge, hwritten⟩
    · exact Or.inl ⟨_, by rw [hwritten, ok_bind]; rfl, hsafe⟩
    · exact Or.inr ⟨n, hn, hlarge, by rw [hwritten, error_bind]⟩
  | obj _ ih =>
    rw [Settled, compact, integers]
    rcases settled_members ih with ⟨written, hwritten, hsafe⟩ | ⟨n, hn, hlarge, hwritten⟩
    · exact Or.inl ⟨_, by rw [hwritten, ok_bind]; rfl, hsafe⟩
    · exact Or.inr ⟨n, hn, hlarge, by rw [hwritten, error_bind]⟩

/-! ## Scanning -/

open Token

lemma separated_cons (first : List Char) (rest : List (List Char)) :
    separated (first :: rest) = first ++ rest.flatMap (',' :: ·) := by
  induction rest generalizing first with
  | nil => rw [separated, List.flatMap_nil, List.append_nil]
  | cons next rest ih => rw [separated, ih, List.flatMap_cons, List.cons_append]; exact nofun

lemma endsWord_flatMap (rest : List (List Char)) : EndsWord (rest.flatMap (',' :: ·)) := by
  cases rest with
  | nil => exact endsWord_nil
  | cons next rest =>
    rw [List.flatMap_cons, List.cons_append]
    exact endsWord_cons (by decide) _

/-- A value whose written form is scanned as its tokens. -/
def Scanned (d : Dialect) (v : Json) : Prop :=
  ∀ cs, compact v = .ok cs → Scans d cs (tokens v)

lemma scans_compactItems (hitems : ∀ v ∈ items, Scanned d v) {written : List (List Char)}
    (hwritten : compactItems items = .ok written) :
    Scans d (written.flatMap (',' :: ·)) (itemTokens items) := by
  induction items generalizing written with
  | nil =>
    obtain rfl := Except.ok.inj hwritten
    exact Scans.nil
  | cons item items ih =>
    rw [List.forall_mem_cons] at hitems
    rw [compactItems, bind_eq_ok] at hwritten
    obtain ⟨first, hfirst, hwritten⟩ := hwritten
    obtain ⟨rest, hrest, hwritten⟩ := bind_eq_ok.1 hwritten
    obtain rfl := Except.ok.inj hwritten
    rw [List.flatMap_cons, List.cons_append, itemTokens]
    exact Scans.punctuation rfl
      ((hitems.1 first hfirst).append (ih hitems.2 hrest) (endsWord_flatMap rest))

lemma scans_compactMember (name : String) {cs : List Char} (hvalue : Scans d cs (tokens v)) :
    Scans d (quoted false name ++ ':' :: cs) (.str name :: .colon :: tokens v) :=
  (Scans.quoted false name).append (Scans.punctuation rfl hvalue) (endsWord_cons (by decide) _)

lemma scans_compactMembers (hmembers : ∀ m ∈ members, Scanned d m.2) {written : List (List Char)}
    (hwritten : compactMembers members = .ok written) :
    Scans d (written.flatMap (',' :: ·)) (memberTokens members) := by
  induction members generalizing written with
  | nil =>
    obtain rfl := Except.ok.inj hwritten
    exact Scans.nil
  | cons m members ih =>
    obtain ⟨name, value⟩ := m
    rw [List.forall_mem_cons] at hmembers
    rw [compactMembers, bind_eq_ok] at hwritten
    obtain ⟨first, hfirst, hwritten⟩ := hwritten
    obtain ⟨rest, hrest, hwritten⟩ := bind_eq_ok.1 hwritten
    obtain rfl := Except.ok.inj hwritten
    have hmember := scans_compactMember name (hmembers.1 first hfirst)
    have hall := hmember.append (ih hmembers.2 hrest) (endsWord_flatMap rest)
    rw [List.flatMap_cons, List.cons_append, memberTokens]
    exact Scans.punctuation rfl hall

lemma scanned_arr (hitems : ∀ v ∈ items, Scanned d v) : Scanned d (.arr items) := by
  intro cs hcs
  rw [compact, bind_eq_ok] at hcs
  obtain ⟨written, hwritten, hcs⟩ := hcs
  obtain rfl := Except.ok.inj hcs
  have hclose : Scans d [']'] [.endArray] := Scans.punctuation rfl Scans.nil
  cases items with
  | nil =>
    obtain rfl := Except.ok.inj hwritten
    rw [tokens]
    exact Scans.punctuation rfl hclose
  | cons item items =>
    rw [List.forall_mem_cons] at hitems
    rw [compactItems, bind_eq_ok] at hwritten
    obtain ⟨first, hfirst, hwritten⟩ := hwritten
    obtain ⟨rest, hrest, hwritten⟩ := bind_eq_ok.1 hwritten
    obtain rfl := Except.ok.inj hwritten
    have hall := (hitems.1 first hfirst).append (scans_compactItems hitems.2 hrest)
      (endsWord_flatMap rest)
    rw [separated_cons, tokens, List.cons_append]
    exact Scans.punctuation rfl (hall.append hclose (endsWord_cons (by decide) _))

lemma scanned_obj (hmembers : ∀ m ∈ members, Scanned d m.2) : Scanned d (.obj members) := by
  intro cs hcs
  rw [compact, bind_eq_ok] at hcs
  obtain ⟨written, hwritten, hcs⟩ := hcs
  obtain rfl := Except.ok.inj hcs
  have hclose : Scans d ['\x7d'] [.endObject] := Scans.punctuation rfl Scans.nil
  cases members with
  | nil =>
    obtain rfl := Except.ok.inj hwritten
    rw [tokens]
    exact Scans.punctuation rfl hclose
  | cons m members =>
    obtain ⟨name, value⟩ := m
    rw [List.forall_mem_cons] at hmembers
    rw [compactMembers, bind_eq_ok] at hwritten
    obtain ⟨first, hfirst, hwritten⟩ := hwritten
    obtain ⟨rest, hrest, hwritten⟩ := bind_eq_ok.1 hwritten
    obtain rfl := Except.ok.inj hwritten
    have hmember := scans_compactMember name (hmembers.1 first hfirst)
    have hall := hmember.append (scans_compactMembers hmembers.2 hrest) (endsWord_flatMap rest)
    rw [separated_cons, tokens, List.cons_append]
    exact Scans.punctuation rfl (hall.append hclose (endsWord_cons (by decide) _))

/-- The written form of a value is scanned as its tokens. -/
lemma Plain.scanned (hv : Plain depth v) : Scanned d v := by
  induction hv with
  | null =>
    intro cs hcs
    rw [compact] at hcs
    obtain rfl := Except.ok.inj hcs
    exact Scans.keyword (by decide) (by decide) rfl
  | bool _ b =>
    intro cs hcs
    rw [compact] at hcs
    obtain rfl := Except.ok.inj hcs
    cases b
    · exact Scans.keyword (by decide) (by decide) rfl
    · exact Scans.keyword (by decide) (by decide) rfl
  | int _ hn =>
    intro cs hcs
    rw [compact] at hcs
    split at hcs
    · obtain rfl := Except.ok.inj hcs
      rw [tokens]
      exact Scans.word (integer_ne_nil _) (endsWord_integer _) (ofWord_integer hn)
    · cases hcs
  | str _ s =>
    intro cs hcs
    rw [compact] at hcs
    obtain rfl := Except.ok.inj hcs
    rw [tokens]
    exact Scans.quoted false s
  | arr _ ih => exact scanned_arr ih
  | obj _ _ ih => exact scanned_obj ih

/-! ## Reading -/

/-- The canonical text of a value is read as the value with its members sorted. -/
theorem parse_canonical {text : String} (hv : Plain depth v) (hdepth : depth ≤ d.depth)
    (htext : canonical v = .ok text) : parse d text = .ok v.sorted := by
  rw [canonical, bind_eq_ok] at htext
  obtain ⟨cs, hcs, htext⟩ := htext
  obtain rfl := Except.ok.inj htext
  have hscan : Token.scan d cs = tokens v.sorted := (hv.sorted.scanned cs hcs).scan_eq
  have hrun : (tokens v.sorted).foldlM (Reader.step d) Reader.initial = .ok (.done v.sorted) :=
    Reader.places hv.sorted (by simpa using hdepth)
  rw [parse, String.toList_ofList, hscan, hrun]
  rfl

/-- A value whose integers are safe has a canonical text. -/
lemma exists_canonical (hv : Whole v) (hsafe : ∀ n ∈ v.integers, n.natAbs ≤ maxSafe) :
    ∃ text, canonical v = .ok text := by
  rcases hv.sorted.settled with ⟨cs, hcs, -⟩ | ⟨n, hn, hlarge, -⟩
  · exact ⟨_, by rw [canonical, hcs]; rfl⟩
  · exact absurd (hsafe n ((mem_integers_sorted hv).1 hn)) (not_le.2 hlarge)

/-- A value with an unsafe integer is refused for one. -/
lemma exists_refused (hv : Whole v) (hn : n ∈ v.integers) (hlarge : maxSafe < n.natAbs) :
    ∃ m ∈ v.integers, maxSafe < m.natAbs ∧ canonical v = .error (.unsafeInteger m) := by
  rcases hv.sorted.settled with ⟨-, -, hsafe⟩ | ⟨m, hm, hlarge', hcs⟩
  · exact absurd (hsafe n ((mem_integers_sorted hv).2 hn)) (not_le.2 hlarge)
  · exact ⟨m, (mem_integers_sorted hv).1 hm, hlarge', by rw [canonical, hcs]; rfl⟩

end MerkleLog.Json

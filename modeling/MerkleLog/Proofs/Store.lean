import Mathlib.Tactic.Ring
import MerkleLog.Store

/-!
# Recording and looking up

A store that records events whose addresses all have keys keeps every event and indexes it, and the
last event of an address decides what a lookup finds there.
-/

namespace MerkleLog

variable {a : Address} {addresses : List Address} {events : List Event} {s : Store} {d : Bytes}

namespace Address

lemma fits_iff : a.fits = true ↔
    (0 ≤ a.level ∧ a.level ≤ maxWord) ∧ 0 ≤ a.leaf ∧ a.leaf ≤ maxWord := by
  simp only [fits, Bool.and_eq_true, decide_eq_true_eq, and_assoc]

lemma encode_eq_ok {key : Bytes} :
    a.encode = .ok key ↔
      a.fits = true ∧ Bytes.ofNat 8 a.level.toNat ++ Bytes.ofNat 8 a.leaf.toNat = key := by
  rw [encode]
  split <;> simp_all

lemma encode_of_fits (ha : a.fits) : ∃ key, a.encode = .ok key :=
  ⟨_, encode_eq_ok.2 ⟨ha, rfl⟩⟩

lemma encode_of_not_fits (ha : a.fits = false) : a.encode = .error (.addressOutOfRange a) := by
  rw [encode, if_neg (Bool.eq_false_iff.1 ha)]

end Address

namespace Store

/-- An index with events put into it one after the other. -/
def index (nodes : Std.HashMap Address Bytes) (events : List Event) : Std.HashMap Address Bytes :=
  events.foldl (fun nodes e => nodes.insert e.address e.hash) nodes

lemma index_append (nodes : Std.HashMap Address Bytes) (events events' : List Event) :
    index nodes (events ++ events') = index (index nodes events) events' :=
  List.foldl_append

/-- What the index holds at an address: the digest of the last event there, or what it held. -/
lemma getElem?_index (nodes : Std.HashMap Address Bytes) (events : List Event) (a : Address) :
    (index nodes events)[a]?
      = ((events.reverse.find? fun e => e.address = a).map (·.hash)).or nodes[a]? := by
  induction events generalizing nodes with
  | nil => simp [index]
  | cons e rest ih =>
    rw [index, List.foldl_cons, ← index, ih, Std.HashMap.getElem?_insert, List.reverse_cons,
      List.find?_append]
    -- a later event at the same address comes first
    by_cases ha : e.address = a
    · cases rest.reverse.find? (fun e => decide (e.address = a)) <;> simp [ha]
    · cases rest.reverse.find? (fun e => decide (e.address = a)) <;> simp [ha]

/-- A store with events added to it, indexed. -/
def extend (s : Store) (events : List Event) : Store :=
  ⟨s.events ++ events.toArray, index s.nodes events, s.heads⟩

/-- Events with keys are all recorded. -/
lemma record_of_fits (s : Store) (hfits : ∀ e ∈ events, e.address.fits) :
    s.record events = (s.extend events, .ok ()) := by
  induction events generalizing s with
  | nil => simp [record, extend, index]
  | cons e rest ih =>
    obtain ⟨key, hkey⟩ := Address.encode_of_fits (hfits e List.mem_cons_self)
    rw [record, hkey]
    dsimp only
    rw [ih _ fun e he => hfits e (List.mem_cons_of_mem _ he)]
    simp [extend, index]

/-! ## Lookups -/

/-- A lookup of addresses with keys finds what the index holds at them, and nothing else. -/
lemma lookup_of_fits (s : Store) (hfits : ∀ a ∈ addresses, a.fits) :
    ∃ found, s.lookup addresses = .ok found ∧
      ∀ a, found.lookup a = if a ∈ addresses then s.nodes[a]? else none := by
  induction addresses with
  | nil => exact ⟨[], rfl, fun a => by simp⟩
  | cons b rest ih =>
    obtain ⟨key, hkey⟩ := Address.encode_of_fits (hfits b List.mem_cons_self)
    obtain ⟨found, hfound, hget⟩ := ih fun a ha => hfits a (List.mem_cons_of_mem _ ha)
    cases hnode : s.nodes[b]? with
    | none =>
      refine ⟨found, ?_, fun a => ?_⟩
      · rw [lookup, hkey, hfound]
        simp [bind, Except.bind, hnode, pure, Except.pure]
      · rw [hget]
        by_cases ha : a = b
        · simp [ha, hnode]
        · simp [ha]
    | some d =>
      refine ⟨(b, d) :: found, ?_, fun a => ?_⟩
      · rw [lookup, hkey, hfound]
        simp [bind, Except.bind, hnode, pure, Except.pure]
      · by_cases ha : a = b
        · simp [ha, hnode]
        · rw [List.lookup_cons, beq_false_of_ne ha, hget]
          simp [ha]

lemma find_of_fits (s : Store) (hfits : ∀ a ∈ addresses, a.fits) :
    ∃ found, s.find addresses = .ok found ∧ ∀ a ∈ addresses, found a = s.nodes[a]? := by
  obtain ⟨found, hfound, hget⟩ := s.lookup_of_fits hfits
  refine ⟨fun a => found.lookup a, ?_, fun a ha => ?_⟩
  · rw [find, hfound]
    rfl
  · exact (hget a).trans (if_pos ha)

/-! ## Heads -/

lemma lookup_cons_ite (size n : Int) (root : Bytes) (heads : Heads) :
    ((n, root) :: heads).lookup size = if size = n then some root else heads.lookup size := by
  by_cases hsize : size = n
  · simp [hsize]
  · rw [List.lookup_cons, beq_false_of_ne hsize, if_neg hsize]

/-- Recording a root changes what is recorded for its size alone. -/
lemma lookup_insert (size m : Int) (root : Bytes) (heads : Heads) :
    (heads.insert size root).lookup m = if m = size then some root else heads.lookup m := by
  induction heads with
  | nil => rw [Heads.insert, lookup_cons_ite]
  | cons entry rest ih =>
    obtain ⟨n, r⟩ := entry
    rw [Heads.insert]
    split
    · rw [lookup_cons_ite]
    · split
      case isTrue hsame =>
        rw [lookup_cons_ite, lookup_cons_ite, hsame]
        split <;> rfl
      case isFalse hne =>
        rw [lookup_cons_ite, ih, lookup_cons_ite]
        split
        case isTrue hm => rw [if_neg fun hsize => hne (hsize.symm.trans hm)]
        case isFalse => rfl

lemma head?_recordHead (s : Store) (size m : Int) (root : Bytes) :
    (s.recordHead size root).head? m = if m = size then some root else s.head? m :=
  lookup_insert size m root s.heads

end Store

end MerkleLog

import Mathlib.Data.List.Induction
import MerkleLog.Proofs.Outcome
import MerkleLog.Proofs.Store

/-!
# Keys in the order of addresses

A byte string is the big-endian expansion of the number that it denotes, at its own length.  Of two
byte strings of one length, the one that comes first byte by byte denotes the smaller number.  A key
is one number of sixteen bytes, with the level above the leaf.  So addresses whose parts fit in
eight bytes and byte strings of sixteen bytes correspond to each other, in the same order.  Any two
addresses of a level from zero up that differ in the bit of that level are each other's sibling, and
have one parent.
-/

namespace MerkleLog

/-! ## Byte strings as numbers -/

/-- Two numbers with the same room for a low part are compared by their high parts first. -/
lemma mul_add_lt_mul_add_iff {room m n x y : Nat} (hx : x < room) (hy : y < room) :
    m * room + x < n * room + y ↔ m < n ∨ m = n ∧ x < y := by
  rcases Nat.lt_trichotomy m n with hmn | rfl | hmn
  · have hroom := Nat.mul_le_mul_right room (Nat.succ_le_of_lt hmn)
    rw [Nat.succ_mul] at hroom
    constructor
    · exact fun _ => Or.inl hmn
    · intro _
      omega
  · simp
  · have hroom := Nat.mul_le_mul_right room (Nat.succ_le_of_lt hmn)
    rw [Nat.succ_mul] at hroom
    constructor
    · intro hlt
      omega
    · rintro (hlt | ⟨heq, -⟩) <;> omega

namespace Bytes

variable {bs cs : Bytes}

@[simp] lemma toNat_nil : toNat [] = 0 := rfl

lemma toNat_concat (bs : Bytes) (b : UInt8) : toNat (bs ++ [b]) = 256 * toNat bs + b.toNat := by
  simp [toNat]

lemma toNat_append (bs cs : Bytes) : toNat (bs ++ cs) = toNat bs * 256 ^ cs.length + toNat cs := by
  induction cs using List.reverseRecOn with
  | nil => simp
  | append_singleton cs c ih =>
    rw [← List.append_assoc, toNat_concat, ih, toNat_concat, List.length_append,
      List.length_singleton]
    ring

lemma toNat_cons (b : UInt8) (bs : Bytes) :
    toNat (b :: bs) = b.toNat * 256 ^ bs.length + toNat bs := by
  have hsingle : toNat [b] = b.toNat := by simp [toNat]
  rw [← List.singleton_append, toNat_append, hsingle]

lemma toNat_lt (bs : Bytes) : toNat bs < 256 ^ bs.length := by
  induction bs using List.reverseRecOn with
  | nil => simp
  | append_singleton bs b ih =>
    have hb := b.toNat_lt
    rw [toNat_concat, List.length_append, List.length_singleton, Nat.pow_succ]
    omega

/-- The bytes of a number that they have room for denote the number. -/
lemma toNat_ofNat {width n : Nat} (hn : n < 256 ^ width) : toNat (ofNat width n) = n := by
  induction width generalizing n with
  | zero =>
    have hzero : n = 0 := by simpa using hn
    rw [ofNat, hzero, toNat_nil]
  | succ width ih =>
    have hhigh : n / 256 < 256 ^ width := by
      rw [Nat.pow_succ, Nat.mul_comm] at hn
      exact Nat.div_lt_of_lt_mul hn
    rw [ofNat, toNat_concat, ih hhigh, UInt8.toNat_ofNat']
    omega

/-- A byte string consists of the bytes of the number that it denotes. -/
lemma ofNat_toNat (bs : Bytes) : ofNat bs.length (toNat bs) = bs := by
  induction bs using List.reverseRecOn with
  | nil => rfl
  | append_singleton bs b ih =>
    have hb := b.toNat_lt
    have hhigh : (256 * toNat bs + b.toNat) / 256 = toNat bs := by omega
    have hlow : UInt8.ofNat (256 * toNat bs + b.toNat) = b := by
      refine UInt8.toNat_inj.1 ?_
      rw [UInt8.toNat_ofNat']
      omega
    rw [List.length_append, List.length_singleton, toNat_concat, ofNat, hhigh, hlow, ih]

/-- Byte strings of one length are in the order of the numbers that they denote. -/
lemma lt_iff_toNat_lt (hlength : bs.length = cs.length) : bs < cs ↔ toNat bs < toNat cs := by
  induction bs generalizing cs with
  | nil =>
    obtain rfl : cs = [] := List.length_eq_zero_iff.1 hlength.symm
    simp
  | cons b bs ih =>
    cases cs with
    | nil => simp at hlength
    | cons c cs =>
      have hrest : bs.length = cs.length := by simpa using hlength
      have hbs := toNat_lt bs
      rw [hrest] at hbs
      -- the first bytes decide, and where they are equal, the numbers of the rest do
      rw [List.cons_lt_cons_iff, ih hrest, toNat_cons, toNat_cons, hrest,
        mul_add_lt_mul_add_iff hbs (toNat_lt cs), UInt8.lt_iff_toNat_lt, UInt8.toNat_inj]

end Bytes

/-! ## Keys -/

namespace Address

variable {a b : Address} {key k l : Bytes} {addresses : List Address}

lemma length_of_encode (hkey : a.encode = .ok key) : key.length = 16 := by
  obtain ⟨-, rfl⟩ := encode_eq_ok.1 hkey
  simp

/-- An address with a key has parts that eight bytes have room for. -/
lemma exists_of_encode (hkey : a.encode = .ok key) :
    ∃ level leaf : Nat, a = ⟨level, leaf⟩ ∧ level < 256 ^ 8 ∧ leaf < 256 ^ 8 ∧
      key = Bytes.ofNat 8 level ++ Bytes.ofNat 8 leaf := by
  obtain ⟨hfits, hbytes⟩ := encode_eq_ok.1 hkey
  obtain ⟨⟨hlevel, hlevelmax⟩, hleaf, hleafmax⟩ := fits_iff.1 hfits
  obtain ⟨level, leaf⟩ := a
  dsimp only at hlevel hlevelmax hleaf hleafmax hbytes
  obtain ⟨level, rfl⟩ := Int.eq_ofNat_of_zero_le hlevel
  obtain ⟨leaf, rfl⟩ := Int.eq_ofNat_of_zero_le hleaf
  have hmax : maxWord < 256 ^ 8 := by decide
  exact ⟨level, leaf, rfl, by omega, by omega, hbytes.symm⟩

/-- A key denotes the level and the leaf as one number. -/
lemma toNat_of_encode {level leaf : Nat} (hkey : encode ⟨level, leaf⟩ = .ok key) :
    Bytes.toNat key = level * 256 ^ 8 + leaf := by
  obtain ⟨level', leaf', haddress, hlevel, hleaf, rfl⟩ := exists_of_encode hkey
  obtain ⟨hlevel', hleaf'⟩ := Address.mk.inj haddress
  obtain rfl : level = level' := by exact_mod_cast hlevel'
  obtain rfl : leaf = leaf' := by exact_mod_cast hleaf'
  rw [Bytes.toNat_append, Bytes.toNat_ofNat hlevel, Bytes.toNat_ofNat hleaf, Bytes.length_ofNat]

lemma decode_of_encode (hkey : a.encode = .ok key) : decode key = .ok a := by
  have hlength := length_of_encode hkey
  obtain ⟨level, leaf, rfl, hlevel, hleaf, rfl⟩ := exists_of_encode hkey
  have htake : (Bytes.ofNat 8 level ++ Bytes.ofNat 8 leaf).take 8 = Bytes.ofNat 8 level :=
    List.take_left' (Bytes.length_ofNat 8 level)
  have hdrop : (Bytes.ofNat 8 level ++ Bytes.ofNat 8 leaf).drop 8 = Bytes.ofNat 8 leaf :=
    List.drop_left' (Bytes.length_ofNat 8 level)
  rw [decode, if_pos hlength, htake, hdrop, Bytes.toNat_ofNat hlevel, Bytes.toNat_ofNat hleaf]

/-- Every byte string of sixteen bytes is a key. -/
lemma exists_of_length (hkey : key.length = 16) : ∃ a, decode key = .ok a ∧ a.encode = .ok key := by
  have htake : (key.take 8).length = 8 := by simp [hkey]
  have hdrop : (key.drop 8).length = 8 := by simp [hkey]
  have hlevel := Bytes.toNat_lt (key.take 8)
  have hleaf := Bytes.toNat_lt (key.drop 8)
  rw [htake] at hlevel
  rw [hdrop] at hleaf
  refine ⟨⟨Bytes.toNat (key.take 8), Bytes.toNat (key.drop 8)⟩, if_pos hkey, ?_⟩
  refine encode_eq_ok.2 ⟨fits_iff.2 ?_, ?_⟩
  · have hmax : maxWord + 1 = 256 ^ 8 := by decide
    dsimp only
    omega
  · have hhigh := Bytes.ofNat_toNat (key.take 8)
    have hlow := Bytes.ofNat_toNat (key.drop 8)
    rw [htake] at hhigh
    rw [hdrop] at hlow
    rw [Int.toNat_natCast, Int.toNat_natCast, hhigh, hlow, List.take_append_drop]

/-- An address without a key is refused by naming it, which takes both its parts in writing. -/
lemma isExpressible_addressOutOfRange :
    (Error.addressOutOfRange a).isExpressible = true ↔
      Text.isWritable a.level = true ∧ Text.isWritable a.leaf = true := by
  rw [Error.isExpressible_iff]
  simp [Error.integers]

/-! ## Siblings and parents -/

lemma width_pos (a : Address) : 0 < a.width :=
  Int.pow_pos (by decide)

lemma isRight_iff : a.isRight = true ↔ a.leaf / a.width % 2 = 1 := by
  rw [isRight, beq_iff_eq]

lemma width_sibling (a : Address) : a.sibling.width = a.width := rfl

/-- Of an address and its sibling, one is a right child. -/
lemma isRight_sibling (a : Address) : a.sibling.isRight = !a.isRight := by
  have hone : a.width / a.width = 1 := Int.ediv_self (width_pos a).ne'
  rw [Bool.eq_iff_iff, Bool.not_eq_true', ← Bool.not_eq_true, isRight_iff, isRight_iff,
    width_sibling, sibling]
  by_cases hright : a.isRight = true
  · have hodd := isRight_iff.1 hright
    rw [if_pos hright, Int.sub_ediv_of_dvd _ (dvd_refl _), hone]
    omega
  · rw [if_neg hright, Int.add_ediv_of_dvd_right (dvd_refl _), hone]
    rw [isRight_iff] at hright
    omega

@[simp] lemma sibling_sibling (a : Address) : a.sibling.sibling = a := by
  rw [sibling, isRight_sibling, width_sibling, sibling]
  cases a.isRight <;> simp

@[simp] lemma parent_sibling (a : Address) : a.sibling.parent = a.parent := by
  rw [parent, isRight_sibling, width_sibling, parent, sibling]
  cases a.isRight <;> simp

/-- From a level of zero or more, the step to the sibling leads back, and the steps from both to the
parent lead to one address; below zero there is no step. -/
theorem steps_of_siblings (a : Address) :
    (0 ≤ a.level →
      ∃ b c : Address, a ≠ b ∧ a.sibling? = .ok b ∧ b.sibling? = .ok a ∧
        a.parent? = .ok c ∧ b.parent? = .ok c ∧ c.level = a.level + 1) ∧
    (a.level < 0 → a.sibling? = .error .negativeLevel ∧ a.parent? = .error .negativeLevel) := by
  refine ⟨fun hlevel => ⟨a.sibling, a.parent, fun heq => ?_, ?_, ?_, ?_, ?_, rfl⟩,
    fun hlevel => ⟨if_pos hlevel, if_pos hlevel⟩⟩
  · have hright := isRight_sibling a
    rw [← heq] at hright
    exact Bool.not_ne_self _ hright.symm
  · exact if_neg hlevel.not_gt
  · rw [sibling?, sibling_sibling]
    exact if_neg hlevel.not_gt
  · exact if_neg hlevel.not_gt
  · rw [parent?, parent_sibling]
    exact if_neg hlevel.not_gt

/-! ## Order -/

/-- Keys are in the order of the levels of their addresses, and of the leaves at one level. -/
lemma lt_iff_of_encode (hk : a.encode = .ok k) (hl : b.encode = .ok l) :
    k < l ↔ a.level < b.level ∨ a.level = b.level ∧ a.leaf < b.leaf := by
  have hlength : k.length = l.length := by rw [length_of_encode hk, length_of_encode hl]
  obtain ⟨level, leaf, rfl, -, hleaf, -⟩ := exists_of_encode hk
  obtain ⟨level', leaf', rfl, -, hleaf', -⟩ := exists_of_encode hl
  rw [Bytes.lt_iff_toNat_lt hlength, toNat_of_encode hk, toNat_of_encode hl,
    mul_add_lt_mul_add_iff hleaf hleaf']
  simp

lemma le_iff : a.le b = true ↔ a.level < b.level ∨ a.level = b.level ∧ a.leaf ≤ b.leaf := by
  simp [le]

lemma keyLE_of_encode (hk : a.encode = .ok k) (hl : b.encode = .ok l) : keyLE k l = a.le b := by
  rw [Bool.eq_iff_iff, keyLE, decide_eq_true_iff, ← List.not_lt, lt_iff_of_encode hl hk, le_iff]
  omega

lemma le_trans {c : Address} (hab : a.le b) (hbc : b.le c) : a.le c := by
  rw [le_iff] at hab hbc ⊢
  omega

lemma le_total (a b : Address) : (a.le b || b.le a) = true := by
  rw [Bool.or_eq_true, le_iff, le_iff]
  omega

lemma perm_sort (addresses : List Address) : (sort addresses).Perm addresses :=
  List.mergeSort_perm _ _

lemma pairwise_sort (addresses : List Address) :
    (sort addresses).Pairwise fun a b =>
      a.level < b.level ∨ a.level = b.level ∧ a.leaf ≤ b.leaf := by
  have hsorted : (sort addresses).Pairwise fun a b => a.le b = true :=
    @List.pairwise_mergeSort _ le (fun _ _ _ => le_trans) le_total addresses
  exact hsorted.imp le_iff.1

/-- There is one way only to have addresses in order. -/
lemma sort_eq_of_perm {sorted : List Address} (hperm : sorted.Perm addresses)
    (hsorted : sorted.Pairwise fun a b => a.le b = true) : sort addresses = sorted := by
  have hpairwise : (sort addresses).Pairwise fun a b => a.le b = true :=
    (pairwise_sort addresses).imp le_iff.2
  refine List.Perm.eq_of_pairwise ?_ hpairwise hsorted ((perm_sort addresses).trans hperm.symm)
  intro a b _ _ hab hba
  rw [le_iff] at hab hba
  cases a
  cases b
  simp only [mk.injEq] at hab hba ⊢
  omega

/-- An address after its bytes. -/
def keyed (a : Address) : Bytes × Address :=
  (Bytes.ofNat 8 a.level.toNat ++ Bytes.ofNat 8 a.leaf.toNat, a)

lemma encode_of_exists (ha : ∃ key, a.encode = .ok key) : a.encode = .ok (keyed a).1 := by
  obtain ⟨key, hkey⟩ := ha
  obtain ⟨hfits, -⟩ := encode_eq_ok.1 hkey
  exact encode_eq_ok.2 ⟨hfits, rfl⟩

/-- Sorted by their keys, addresses are in the order of addresses. -/
lemma sortByKey_of_encode (hkeys : ∀ a ∈ addresses, ∃ key, a.encode = .ok key) :
    sortByKey addresses = .ok (sort addresses) := by
  have hkeyed : addresses.mapM (fun a => do return (← a.encode, a))
      = .ok (addresses.map keyed) := by
    refine mapM_eq_ok fun a ha => ?_
    rw [encode_of_exists (hkeys a ha)]
    rfl
  have hsame : ∀ x ∈ addresses.map keyed, ∀ y ∈ addresses.map keyed,
      keyLE x.1 y.1 = x.2.le y.2 := by
    rintro x hx y hy
    obtain ⟨a, ha, rfl⟩ := List.mem_map.1 hx
    obtain ⟨b, hb, rfl⟩ := List.mem_map.1 hy
    exact keyLE_of_encode (encode_of_exists (hkeys a ha)) (encode_of_exists (hkeys b hb))
  have hforget : (addresses.map keyed).map (·.2) = addresses := by
    rw [List.map_map]
    exact List.map_id addresses
  rw [sortByKey, hkeyed, ok_bind, List.map_mergeSort hsame, hforget]
  rfl

/-- Of the addresses to sort, the first without a key is refused. -/
lemma sortByKey_of_find? (ha : addresses.find? (fun a => !a.fits) = some a) :
    sortByKey addresses = .error (.addressOutOfRange a) := by
  obtain ⟨hfits, before, after, rfl, hbefore⟩ := List.find?_eq_some_iff_append.1 ha
  have hrefused := encode_of_not_fits (by simpa using hfits : a.fits = false)
  have hall : (before ++ a :: after).mapM (fun c => do return (← c.encode, c))
      = .error (.addressOutOfRange a) := by
    refine mapM_append_eq_error (fun c hc => ?_) ?_
    · obtain ⟨key, hkey⟩ := encode_of_fits (a := c) (by simpa using hbefore c hc)
      exact ⟨(key, c), by rw [hkey]; rfl⟩
    · rw [hrefused]
      rfl
  rw [sortByKey, hall]
  rfl

/-- Addresses and keys correspond to each other, in the same order.  An address has a key of sixteen
bytes, which leads back to it, exactly if level and leaf fit in eight bytes each; a byte string
leads to an address, and that back to it, exactly if it has sixteen bytes.  The refusal names the
address, unless the level or the leaf is too long to be written.  Keys come in byte order as their
addresses do by level and then leaf, and so both orders sort any addresses with keys alike. -/
theorem keys_correspond (a : Address) (key : Bytes) (addresses : List Address) :
    ((0 ≤ a.level ∧ a.level ≤ 2 ^ 64 - 1) ∧ 0 ≤ a.leaf ∧ a.leaf ≤ 2 ^ 64 - 1 →
      ∃ k, a.encode = .ok k ∧ k.length = 16 ∧ decode k = .ok a) ∧
    (¬ ((0 ≤ a.level ∧ a.level ≤ 2 ^ 64 - 1) ∧ 0 ≤ a.leaf ∧ a.leaf ≤ 2 ^ 64 - 1) →
      a.encode = .error (.addressOutOfRange a) ∧
      ((Error.addressOutOfRange a).isExpressible = true ↔
        Text.isWritable a.level = true ∧ Text.isWritable a.leaf = true)) ∧
    (key.length = 16 → ∃ b, decode key = .ok b ∧ b.encode = .ok key) ∧
    (key.length ≠ 16 → decode key = .error (.keySize key.length)) ∧
    (∀ (b : Address) (k l : Bytes), a.encode = .ok k → b.encode = .ok l →
      (k < l ↔ a.level < b.level ∨ a.level = b.level ∧ a.leaf < b.leaf) ∧ (k = l ↔ a = b)) ∧
    (sort addresses).Perm addresses ∧
    ((sort addresses).Pairwise fun b c =>
      b.level < c.level ∨ b.level = c.level ∧ b.leaf ≤ c.leaf) ∧
    ((∀ b ∈ addresses, ∃ k, b.encode = .ok k) → sortByKey addresses = .ok (sort addresses)) ∧
    ∀ b, addresses.find? (fun b => !b.fits) = some b →
      sortByKey addresses = .error (.addressOutOfRange b) := by
  have hmax : (maxWord : Int) = 2 ^ 64 - 1 := by decide
  refine ⟨fun hrange => ?_, fun hrange => ?_, exists_of_length, fun hlength => if_neg hlength, ?_,
    perm_sort addresses, pairwise_sort addresses, sortByKey_of_encode,
    fun b => sortByKey_of_find?⟩
  · rw [← hmax] at hrange
    obtain ⟨k, hk⟩ := encode_of_fits (fits_iff.2 hrange)
    exact ⟨k, hk, length_of_encode hk, decode_of_encode hk⟩
  · rw [← hmax] at hrange
    exact ⟨if_neg fun hfits => hrange (fits_iff.1 hfits), isExpressible_addressOutOfRange⟩
  · intro b k l hk hl
    refine ⟨lt_iff_of_encode hk hl, fun heq => ?_, fun heq => ?_⟩
    · subst heq
      exact Except.ok.inj ((decode_of_encode hk).symm.trans (decode_of_encode hl))
    · subst heq
      exact Except.ok.inj (hk.symm.trans hl)

/-- Four addresses around the border between level and leaf, and between one byte and the next. -/
theorem keys_correspond_border :
    sortByKey [⟨1, 0⟩, ⟨0, 2 ^ 64 - 1⟩, ⟨0, 256⟩, ⟨0, 255⟩]
        = .ok [⟨0, 255⟩, ⟨0, 256⟩, ⟨0, 2 ^ 64 - 1⟩, ⟨1, 0⟩] ∧
      sortByKey [⟨1, 0⟩, ⟨0, 2 ^ 64⟩] = .error (.addressOutOfRange ⟨0, 2 ^ 64⟩) := by
  have hkeys : ∀ a ∈ ([⟨1, 0⟩, ⟨0, 2 ^ 64 - 1⟩, ⟨0, 256⟩, ⟨0, 255⟩] : List Address),
      ∃ key, a.encode = .ok key := by
    intro a ha
    have hrange : (0 ≤ a.level ∧ a.level ≤ 2 ^ 64 - 1) ∧ 0 ≤ a.leaf ∧ a.leaf ≤ 2 ^ 64 - 1 := by
      revert a
      decide
    obtain ⟨hencode, -⟩ := keys_correspond a [] []
    obtain ⟨key, hkey, -⟩ := hencode hrange
    exact ⟨key, hkey⟩
  have hsorted : sort [⟨1, 0⟩, ⟨0, 2 ^ 64 - 1⟩, ⟨0, 256⟩, ⟨0, 255⟩]
      = [⟨0, 255⟩, ⟨0, 256⟩, ⟨0, 2 ^ 64 - 1⟩, ⟨1, 0⟩] :=
    sort_eq_of_perm (by decide) (by decide)
  obtain ⟨-, -, -, -, -, -, -, hsort, -⟩ :=
    keys_correspond ⟨1, 0⟩ [] [⟨1, 0⟩, ⟨0, 2 ^ 64 - 1⟩, ⟨0, 256⟩, ⟨0, 255⟩]
  obtain ⟨-, -, -, -, -, -, -, -, hrefused⟩ := keys_correspond ⟨1, 0⟩ [] [⟨1, 0⟩, ⟨0, 2 ^ 64⟩]
  rw [← hsorted]
  exact ⟨hsort hkeys, hrefused _ (by decide)⟩

/-- On either side of the range there are leaves too long to be named in a refusal. -/
theorem encode_long :
    (∃ cause, encode ⟨0, 10 ^ Text.maxDigits⟩ = .error cause ∧ cause.isExpressible = false ∧
      cause.message = Error.inexpressible) ∧
    ∃ cause, encode ⟨0, -10 ^ Text.maxDigits⟩ = .error cause ∧ cause.isExpressible = false ∧
      cause.message = Error.inexpressible := by
  have habove : (Error.addressOutOfRange ⟨0, 10 ^ Text.maxDigits⟩).isExpressible = false := by
    decide +kernel
  have hbelow : (Error.addressOutOfRange ⟨0, -10 ^ Text.maxDigits⟩).isExpressible = false := by
    decide +kernel
  exact ⟨⟨_, encode_of_not_fits (by decide +kernel), habove,
      Error.message_of_not_expressible habove⟩,
    ⟨_, encode_of_not_fits (by decide +kernel), hbelow, Error.message_of_not_expressible hbelow⟩⟩

end Address

end MerkleLog

import Mathlib.Tactic.SplitIfs
import MerkleLog.Proofs.Text.Base64

/-!
# Spellings in base64

A byte string that does not fill its last group leaves some bits of the last symbol without a byte:
four bits after one byte left over, and two bits after two.  Reading ignores them, so that there is
one text for each value of these bits, and no other; writing gives the text in which they are clear.
-/

namespace MerkleLog.Text.Base64

variable {bs : Bytes} {values : List Nat} {cs : List Char} {t : String} {c : Char}
  {n signs spare : Nat}

/-! ## Symbols -/

lemma symbol_of_ascii :
    ∀ k < 128, ∀ n ∈ value? (Char.ofNat k), n < 64 ∧ symbol n = Char.ofNat k := by decide

/-- A character with a value is the symbol for it. -/
lemma symbol_of_value? (hc : value? c = some n) : n < 64 ∧ symbol n = c := by
  have hascii : c.toNat < 128 := by
    unfold value? at hc
    split_ifs at hc with hupper hlower hdigit hplus hslash
    · exact Nat.lt_of_le_of_lt hupper.2 (by decide)
    · exact Nat.lt_of_le_of_lt hlower.2 (by decide)
    · exact Nat.lt_of_le_of_lt hdigit.2 (by decide)
    · rw [hplus]
      decide
    · rw [hslash]
      decide
  have hsymbol := symbol_of_ascii c.toNat hascii n
  rw [Char.ofNat_toNat] at hsymbol
  exact hsymbol hc

/-- Characters that all have values are the symbols for these. -/
lemma map_symbol_filterMap (hcs : ∀ c ∈ cs, (value? c).isSome = true) :
    (cs.filterMap value?).map symbol = cs ∧ ∀ n ∈ cs.filterMap value?, n < 64 := by
  induction cs with
  | nil => exact ⟨rfl, nofun⟩
  | cons c cs ih =>
    rw [List.forall_mem_cons] at hcs
    obtain ⟨n, hn⟩ := Option.isSome_iff_exists.1 hcs.1
    obtain ⟨hlt, hsymbol⟩ := symbol_of_value? hn
    obtain ⟨hback, hrest⟩ := ih hcs.2
    rw [List.filterMap_cons_some hn, List.map_cons, hsymbol, hback, List.forall_mem_cons]
    exact ⟨rfl, hlt, hrest⟩

/-- What is read consists of symbols and of the filling that belongs to their number. -/
lemma decodeChars?_eq_some_iff :
    decodeChars? cs = some bs ↔ ∃ values signs,
      cs = values.map symbol ++ List.replicate signs '=' ∧ (∀ n ∈ values, n < 64) ∧
        fills values.length signs = true ∧ bytesOf? values = some bs := by
  constructor
  · intro hread
    rw [decodeChars?] at hread
    split at hread
    · rename_i hform
      rw [Bool.and_eq_true] at hform
      obtain ⟨hfilling, hfills⟩ := hform
      have hsome : ∀ c ∈ cs.takeWhile fun c => (value? c).isSome, (value? c).isSome = true :=
        List.all_eq_true.1 List.all_takeWhile
      obtain ⟨hback, hlt⟩ := map_symbol_filterMap hsome
      have hsigns : cs.dropWhile (fun c => (value? c).isSome) = List.replicate
          (cs.dropWhile fun c => (value? c).isSome).length '=' :=
        List.eq_replicate_iff.2 ⟨rfl, by simpa using hfilling⟩
      have hlength := congrArg List.length hback
      rw [List.length_map] at hlength
      refine ⟨(cs.takeWhile fun c => (value? c).isSome).filterMap value?,
        (cs.dropWhile fun c => (value? c).isSome).length, ?_, hlt, ?_, hread⟩
      · rw [hback, ← hsigns, List.takeWhile_append_dropWhile]
      · rw [hlength]
        exact hfills
    · cases hread
  · rintro ⟨values, signs, rfl, hvalues, hfills, hbytes⟩
    rw [decodeChars?_eq hvalues hfills, hbytes]

/-! ## Bits without a byte -/

/-- The values of the symbols for bytes, with some bits behind the last byte. -/
def sextets (spare : Nat) : Bytes → List Nat
  | [] => []
  | [a] => [a.toNat / 4, a.toNat % 4 * 16 + spare]
  | [a, b] => [a.toNat / 4, a.toNat % 4 * 16 + b.toNat / 16, b.toNat % 16 * 4 + spare]
  | a :: b :: c :: rest =>
    a.toNat / 4 :: (a.toNat % 4 * 16 + b.toNat / 16) :: (b.toNat % 16 * 4 + c.toNat / 64)
      :: c.toNat % 64 :: sextets spare rest

/-- How many values the bits behind the last byte may have. -/
def freedom (size : Nat) : Nat :=
  if size % 3 = 0 then 1 else if size % 3 = 1 then 16 else 4

lemma freedom_add_three (size : Nat) : freedom (size + 3) = freedom size := by
  rw [freedom, Nat.add_mod_right, freedom]

lemma sextets_lt (hspare : spare < freedom bs.length) : ∀ n ∈ sextets spare bs, n < 64 := by
  induction bs using sextets.induct with
  | case1 => exact nofun
  | case2 a =>
    have ha := a.toNat_lt
    have hroom : spare < 16 := hspare
    simp only [sextets, List.forall_mem_cons]
    exact ⟨by omega, by omega, nofun⟩
  | case3 a b =>
    have ha := a.toNat_lt
    have hb := b.toNat_lt
    have hroom : spare < 4 := hspare
    simp only [sextets, List.forall_mem_cons]
    exact ⟨by omega, by omega, by omega, nofun⟩
  | case4 a b c rest ih =>
    have ha := a.toNat_lt
    have hb := b.toNat_lt
    have hc := c.toNat_lt
    simp only [List.length_cons, freedom_add_three] at hspare
    simp only [sextets, List.forall_mem_cons]
    exact ⟨by omega, by omega, by omega, by omega, ih hspare⟩

lemma length_sextets (spare : Nat) (bs : Bytes) :
    (sextets spare bs).length = bs.length + (bs.length + 2) / 3 := by
  induction bs using sextets.induct with
  | case1 => rfl
  | case2 a => simp [sextets]
  | case3 a b => simp [sextets]
  | case4 a b c rest ih =>
    simp only [sextets, List.length_cons, ih]
    omega

/-- The bits behind the last byte are ignored. -/
lemma bytesOf?_sextets (hspare : spare < freedom bs.length) :
    bytesOf? (sextets spare bs) = some bs := by
  induction bs using sextets.induct with
  | case1 => rfl
  | case2 a =>
    have hroom : spare < 16 := hspare
    have ha : a.toNat / 4 * 4 + (a.toNat % 4 * 16 + spare) / 16 = a.toNat := by omega
    rw [sextets, bytesOf?, ha, UInt8.ofNat_toNat]
  | case3 a b =>
    have hb' := b.toNat_lt
    have hroom : spare < 4 := hspare
    have ha : a.toNat / 4 * 4 + (a.toNat % 4 * 16 + b.toNat / 16) / 16 = a.toNat := by omega
    have hb : (a.toNat % 4 * 16 + b.toNat / 16) % 16 * 16 + (b.toNat % 16 * 4 + spare) / 4
        = b.toNat := by omega
    rw [sextets, bytesOf?, ha, hb, UInt8.ofNat_toNat, UInt8.ofNat_toNat]
  | case4 a b c rest ih =>
    simp only [List.length_cons, freedom_add_three] at hspare
    rw [sextets, bytesOf?_four, ih hspare, Option.map_some]

/-- Values that make up bytes are those of the bytes, up to the bits behind the last one. -/
lemma exists_spare (hvalues : ∀ n ∈ values, n < 64) (hbytes : bytesOf? values = some bs) :
    ∃ spare < freedom bs.length, values = sextets spare bs := by
  have hbyte : ∀ n < 256, (UInt8.ofNat n).toNat = n := fun n hn => UInt8.toNat_ofNat_of_lt' hn
  induction values using bytesOf?.induct generalizing bs with
  | case1 =>
    obtain rfl := Option.some.inj hbytes
    exact ⟨0, by decide, rfl⟩
  | case2 a => cases hbytes
  | case3 a b =>
    obtain rfl := Option.some.inj hbytes
    simp only [List.forall_mem_cons] at hvalues
    obtain ⟨ha, hb, -⟩ := hvalues
    have hfirst : (a * 4 + b / 16) / 4 = a := by omega
    have hsecond : (a * 4 + b / 16) % 4 * 16 + b % 16 = b := by omega
    refine ⟨b % 16, Nat.mod_lt _ (by decide), ?_⟩
    rw [sextets, hbyte _ (by omega), hfirst, hsecond]
  | case4 a b c =>
    obtain rfl := Option.some.inj hbytes
    simp only [List.forall_mem_cons] at hvalues
    obtain ⟨ha, hb, hc, -⟩ := hvalues
    have hfirst : (a * 4 + b / 16) / 4 = a := by omega
    have hsecond : (a * 4 + b / 16) % 4 * 16 + (b % 16 * 16 + c / 4) / 16 = b := by omega
    have hthird : (b % 16 * 16 + c / 4) % 16 * 4 + c % 4 = c := by omega
    refine ⟨c % 4, Nat.mod_lt _ (by decide), ?_⟩
    rw [sextets, hbyte _ (by omega), hbyte _ (by omega), hfirst, hsecond, hthird]
  | case5 a b c d rest ih =>
    rw [bytesOf?] at hbytes
    obtain ⟨bs, hbs, rfl⟩ := Option.map_eq_some_iff.1 hbytes
    simp only [List.forall_mem_cons] at hvalues
    obtain ⟨ha, hb, hc, hd, hvalues⟩ := hvalues
    obtain ⟨spare, hspare, rfl⟩ := ih hvalues hbs
    have hfirst : (a * 4 + b / 16) / 4 = a := by omega
    have hsecond : (a * 4 + b / 16) % 4 * 16 + (b % 16 * 16 + c / 4) / 16 = b := by omega
    have hthird : (b % 16 * 16 + c / 4) % 16 * 4 + (c % 4 * 64 + d) / 64 = c := by omega
    have hfourth : (c % 4 * 64 + d) % 64 = d := by omega
    refine ⟨spare, ?_, ?_⟩
    · simpa only [List.length_cons, freedom_add_three] using hspare
    · rw [sextets, hbyte _ (by omega), hbyte _ (by omega), hbyte _ (by omega), hfirst, hsecond,
        hthird, hfourth]

/-! ## Spellings -/

/-- The number of signs that fill up the last group. -/
def filling (size : Nat) : Nat := (3 - size % 3) % 3

lemma fills_iff (hsize : bs.length % 3 ≠ 0) (spare : Nat) :
    fills (sextets spare bs).length signs = true ↔ signs = filling bs.length := by
  have hrest : bs.length % 3 = 1 ∨ bs.length % 3 = 2 := by omega
  rw [fills, length_sextets, filling]
  rcases hrest with hrest | hrest
  · have hover : (bs.length + (bs.length + 2) / 3) % 4 = 2 := by omega
    rw [hover, hrest]
    simp
  · have hover : (bs.length + (bs.length + 2) / 3) % 4 = 3 := by omega
    rw [hover, hrest]
    simp

/-- The text of bytes with some bits behind the last byte. -/
def spell (spare : Nat) (bs : Bytes) : String :=
  String.ofList ((sextets spare bs).map symbol ++ List.replicate (filling bs.length) '=')

/-- Bytes are written with no bit set behind the last byte. -/
lemma encode_eq_spell (bs : Bytes) : encode bs = spell 0 bs := by
  rw [encode, spell]
  congr 1
  induction bs using sextets.induct with
  | case1 => rfl
  | case2 a => rfl
  | case3 a b => rfl
  | case4 a b c rest ih =>
    have hfilling : filling (a :: b :: c :: rest).length = filling rest.length := by
      simp only [List.length_cons, filling]
      omega
    rw [encodeChars, ih, sextets, hfilling]
    rfl

/-- A text reads as bytes that leave the last group open exactly if it is one of their spellings. -/
theorem decode?_eq_some_iff (hsize : bs.length % 3 ≠ 0) :
    decode? t = some bs ↔ ∃ spare < freedom bs.length, t = spell spare bs := by
  rw [decode?, decodeChars?_eq_some_iff]
  constructor
  · rintro ⟨values, signs, ht, hvalues, hfills, hbytes⟩
    obtain ⟨spare, hspare, rfl⟩ := exists_spare hvalues hbytes
    obtain rfl := (fills_iff hsize spare).1 hfills
    exact ⟨spare, hspare, by rw [spell, ← ht, String.ofList_toList]⟩
  · rintro ⟨spare, hspare, rfl⟩
    exact ⟨sextets spare bs, filling bs.length, String.toList_ofList, sextets_lt hspare,
      (fills_iff hsize spare).2 rfl, bytesOf?_sextets hspare⟩

/-- The value of the last symbol of a text. -/
def lastValue (t : String) : Nat := ((t.toList.filterMap value?).getLast?).getD 0

lemma lastSextet (hsize : bs.length % 3 ≠ 0) (hspare : spare < freedom bs.length) :
    (sextets spare bs).getLast?.getD 0 % freedom bs.length = spare := by
  induction bs using sextets.induct with
  | case1 => exact absurd rfl hsize
  | case2 a =>
    have hroom : spare < 16 := hspare
    have hlast : (sextets spare [a]).getLast?.getD 0 = a.toNat % 4 * 16 + spare := by
      simp [sextets]
    rw [hlast]
    change _ % 16 = spare
    omega
  | case3 a b =>
    have hroom : spare < 4 := hspare
    have hlast : (sextets spare [a, b]).getLast?.getD 0 = b.toNat % 16 * 4 + spare := by
      simp [sextets]
    rw [hlast]
    change _ % 4 = spare
    omega
  | case4 a b c rest ih =>
    have hsize' : rest.length % 3 ≠ 0 := by
      simp only [List.length_cons] at hsize
      omega
    simp only [List.length_cons, freedom_add_three] at hspare ⊢
    -- something follows the complete group
    have hne : sextets spare rest ≠ [] := by
      intro hnil
      have hlength := length_sextets spare rest
      rw [hnil, List.length_nil] at hlength
      omega
    obtain ⟨n, values, hvalues⟩ := List.exists_cons_of_ne_nil hne
    have hlast := ih hsize' hspare
    rw [hvalues] at hlast
    rw [sextets, hvalues]
    simpa only [List.getLast?_cons_cons] using hlast

/-- The last symbol of a spelling tells the bits behind the last byte. -/
lemma lastValue_spell (hsize : bs.length % 3 ≠ 0) (hspare : spare < freedom bs.length) :
    lastValue (spell spare bs) % freedom bs.length = spare := by
  have hvalues : (spell spare bs).toList.filterMap value? = sextets spare bs := by
    rw [spell, String.toList_ofList, List.filterMap_append,
      filterMap_value?_symbol (sextets_lt hspare),
      List.filterMap_replicate_of_none value?_filling, List.append_nil]
  rw [lastValue, hvalues, lastSextet hsize hspare]

end MerkleLog.Text.Base64

import Mathlib.Tactic.Lemma
import MerkleLog.Text.Base64

/-!
# Base64 is read back

A written form consists of symbols for six bits each and then of filling signs.  Read back, the
symbols give the values they were written for, and the values give the bytes.
-/

namespace MerkleLog.Text.Base64

lemma value?_symbol : ∀ n < 64, value? (symbol n) = some n := by decide

lemma value?_filling : value? '=' = none := by decide

/-- Four symbols more ask for the same filling. -/
lemma fills_add_four {symbols signs : Nat} (hfills : fills symbols signs = true) :
    fills (symbols + 4) signs = true := by
  rw [fills] at hfills ⊢
  rw [Nat.add_mod_right]
  split at hfills
  · simp
  · exact hfills
  · exact hfills
  · cases hfills

/-- The bytes of four values, of which three bytes were made. -/
lemma bytesOf?_four (a b c : UInt8) (rest : List Nat) :
    bytesOf? (a.toNat / 4 :: (a.toNat % 4 * 16 + b.toNat / 16) ::
        (b.toNat % 16 * 4 + c.toNat / 64) :: c.toNat % 64 :: rest)
      = (bytesOf? rest).map fun bs => a :: b :: c :: bs := by
  have ha : a.toNat / 4 * 4 + (a.toNat % 4 * 16 + b.toNat / 16) / 16 = a.toNat := by
    have := b.toNat_lt
    omega
  have hb : (a.toNat % 4 * 16 + b.toNat / 16) % 16 * 16 + (b.toNat % 16 * 4 + c.toNat / 64) / 4
      = b.toNat := by
    have := b.toNat_lt
    have := c.toNat_lt
    omega
  have hc : (b.toNat % 16 * 4 + c.toNat / 64) % 4 * 64 + c.toNat % 64 = c.toNat := by
    have := c.toNat_lt
    omega
  rw [bytesOf?, ha, hb, hc]
  simp only [UInt8.ofNat_toNat]

/-- A written form is made of symbols for values, which stand for the bytes, and of the filling that
belongs to their number. -/
lemma exists_values (bs : Bytes) : ∃ values signs,
    encodeChars bs = values.map symbol ++ List.replicate signs '=' ∧ (∀ n ∈ values, n < 64) ∧
      fills values.length signs = true ∧ bytesOf? values = some bs := by
  induction bs using encodeChars.induct with
  | case1 => exact ⟨[], 0, rfl, by simp, rfl, rfl⟩
  | case2 a =>
    have ha := a.toNat_lt
    refine ⟨[a.toNat / 4, a.toNat % 4 * 16], 2, rfl, ?_, rfl, ?_⟩
    · simp only [List.mem_cons, List.not_mem_nil, or_false, forall_eq_or_imp, forall_eq]
      omega
    · have hvalue : a.toNat / 4 * 4 + a.toNat % 4 * 16 / 16 = a.toNat := by omega
      rw [bytesOf?, hvalue, UInt8.ofNat_toNat]
  | case3 a b =>
    have ha := a.toNat_lt
    have hb := b.toNat_lt
    refine ⟨[a.toNat / 4, a.toNat % 4 * 16 + b.toNat / 16, b.toNat % 16 * 4], 1, rfl, ?_, rfl, ?_⟩
    · simp only [List.mem_cons, List.not_mem_nil, or_false, forall_eq_or_imp, forall_eq]
      omega
    · have hfirst : a.toNat / 4 * 4 + (a.toNat % 4 * 16 + b.toNat / 16) / 16 = a.toNat := by omega
      have hsecond : (a.toNat % 4 * 16 + b.toNat / 16) % 16 * 16 + b.toNat % 16 * 4 / 4
          = b.toNat := by omega
      rw [bytesOf?, hfirst, hsecond, UInt8.ofNat_toNat, UInt8.ofNat_toNat]
  | case4 a b c rest ih =>
    have ha := a.toNat_lt
    have hb := b.toNat_lt
    have hc := c.toNat_lt
    obtain ⟨values, signs, hchars, hvalues, hfills, hbytes⟩ := ih
    refine ⟨a.toNat / 4 :: (a.toNat % 4 * 16 + b.toNat / 16) ::
      (b.toNat % 16 * 4 + c.toNat / 64) :: c.toNat % 64 :: values, signs, ?_, ?_, ?_, ?_⟩
    · rw [encodeChars, hchars]
      rfl
    · simp only [List.mem_cons, forall_eq_or_imp]
      exact ⟨by omega, by omega, by omega, by omega, hvalues⟩
    · exact fills_add_four hfills
    · rw [bytesOf?_four, hbytes, Option.map_some]

lemma filterMap_value?_symbol {values : List Nat} (hvalues : ∀ n ∈ values, n < 64) :
    (values.map symbol).filterMap value? = values := by
  induction values with
  | nil => rfl
  | cons n values ih =>
    rw [List.map_cons, List.filterMap_cons_some (value?_symbol n (hvalues n List.mem_cons_self)),
      ih fun m hm => hvalues m (List.mem_cons_of_mem _ hm)]

/-- Symbols and filling signs are read as the bytes that the values of the symbols make up. -/
lemma decodeChars?_eq {values : List Nat} {signs : Nat} (hvalues : ∀ n ∈ values, n < 64)
    (hfills : fills values.length signs = true) :
    decodeChars? (values.map symbol ++ List.replicate signs '=') = bytesOf? values := by
  have hsymbols : ∀ c ∈ values.map symbol, (value? c).isSome = true := by
    intro c hc
    obtain ⟨n, hn, rfl⟩ := List.mem_map.1 hc
    rw [value?_symbol n (hvalues n hn), Option.isSome_some]
  -- the symbols end where the filling starts
  have htake : (values.map symbol ++ List.replicate signs '=').takeWhile
      (fun c => (value? c).isSome) = values.map symbol := by
    rw [List.takeWhile_append_of_pos hsymbols]
    cases signs <;> simp [List.replicate_succ, value?_filling]
  have hdrop : (values.map symbol ++ List.replicate signs '=').dropWhile
      (fun c => (value? c).isSome) = List.replicate signs '=' := by
    rw [List.dropWhile_append_of_pos hsymbols]
    cases signs <;> simp [List.replicate_succ, value?_filling]
  rw [decodeChars?]
  simp only [htake, hdrop, List.length_map, List.length_replicate, hfills, List.all_replicate,
    filterMap_value?_symbol hvalues]
  simp

/-- What was written is read back. -/
theorem decode_encode (bs : Bytes) : decode? (encode bs) = some bs := by
  obtain ⟨values, signs, hchars, hvalues, hfills, hbytes⟩ := exists_values bs
  rw [decode?, encode, String.toList_ofList, hchars, decodeChars?_eq hvalues hfills, hbytes]

end MerkleLog.Text.Base64

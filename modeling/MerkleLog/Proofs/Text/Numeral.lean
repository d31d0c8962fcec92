import Mathlib.Data.List.TakeDrop
import Mathlib.Data.List.TakeWhile
import Mathlib.Tactic.Ring
import MerkleLog.Number.Layout
import MerkleLog.Text.Numeral

/-!
# Numerals

The decimal digits of a number denote it, and no reader takes a text for an integer of more digits
than may be written.
-/

namespace MerkleLog

namespace Text

variable {c : Char} {cs digits : List Char} {n : Int} {negative : Bool}

/-! ## Digits -/

lemma isAsciiDigit_eq (c : Char) : isAsciiDigit c = c.isDigit := by
  have hrange : '0' ≤ c ∧ c ≤ '9' ↔ c.isDigit = true := by
    simp only [Char.isDigit, Char.le_def, Bool.and_eq_true, decide_eq_true_eq]
  rw [Bool.eq_iff_iff, ← hrange, isAsciiDigit, asciiDigit?]
  split
  case isTrue hc => simp only [hc, Option.isSome_some, and_self]
  case isFalse hc => simp only [hc, Option.isSome_none, Bool.false_eq_true]

lemma asciiDigit?_of_isAsciiDigit (hc : isAsciiDigit c = true) :
    asciiDigit? c = some (c.toNat - '0'.toNat) := by
  rw [isAsciiDigit] at hc
  rw [asciiDigit?] at hc ⊢
  split
  · rfl
  · rename_i hnot
    rw [if_neg hnot] at hc
    cases hc

lemma asciiDigit?_lt {d : Nat} (hd : asciiDigit? c = some d) : d < 10 := by
  rw [asciiDigit?] at hd
  split at hd
  · rename_i hc
    have hhigh : c.toNat ≤ '9'.toNat := hc.2
    have hnine : '9'.toNat = 57 := rfl
    have hzero : '0'.toNat = 48 := rfl
    obtain rfl := Option.some.inj hd
    omega
  · cases hd

lemma isAsciiDigit_toDigits {m : Nat} (hc : c ∈ Nat.toDigits 10 m) : isAsciiDigit c = true := by
  rw [isAsciiDigit_eq]
  exact Nat.isDigit_of_mem_toDigits (by decide) le_rfl hc

/-- A character that is no digit is not in the digits of a number. -/
lemma not_mem_toDigits (hc : isAsciiDigit c = false) (m : Nat) : c ∉ Nat.toDigits 10 m :=
  fun hmem => absurd (isAsciiDigit_toDigits hmem) (by rw [hc]; decide)

/-! ## The number of a run of digits -/

lemma valueOf_eq_ofDigitChars (hdigits : ∀ c ∈ digits, isAsciiDigit c = true) :
    valueOf digits = Nat.ofDigitChars 10 digits 0 := by
  have hfold : ∀ n, (digits.filterMap asciiDigit?).foldl (fun n d => 10 * n + d) n
      = Nat.ofDigitChars 10 digits n := by
    induction digits with
    | nil => intro n; simp
    | cons c digits ih =>
      intro n
      rw [List.filterMap_cons_some (asciiDigit?_of_isAsciiDigit (hdigits c List.mem_cons_self)),
        List.foldl_cons, ih fun c hc => hdigits c (List.mem_cons_of_mem _ hc),
        Nat.ofDigitChars_cons]
  exact hfold 0

/-- The digits of a number denote it. -/
lemma valueOf_toDigits (m : Nat) : valueOf (Nat.toDigits 10 m) = m := by
  rw [valueOf_eq_ofDigitChars fun c hc => isAsciiDigit_toDigits hc]
  exact Nat.ofDigitChars_toDigits (by decide) le_rfl

/-- Only zero has a zero in front. -/
lemma eq_nil_of_toDigits {m : Nat} (hm : Nat.toDigits 10 m = '0' :: cs) : cs = [] := by
  induction m using Nat.strongRecOn generalizing cs with
  | _ m ih =>
    rw [Nat.toDigits_eq_if (by decide)] at hm
    split at hm
    case isTrue => exact (List.cons.inj hm).2.symm
    case isFalse hten =>
      rw [not_lt] at hten
      obtain ⟨c, front, hfront⟩ := List.exists_cons_of_ne_nil (Nat.toDigits_ne_nil (n := m / 10))
      rw [hfront, List.cons_append] at hm
      obtain ⟨rfl, -⟩ := List.cons.inj hm
      obtain rfl := ih (m / 10) (Nat.div_lt_self (by omega) (by decide)) hfront
      -- the digits in front would be a single zero, and denote a number of at least one
      have hzero := valueOf_toDigits (m / 10)
      rw [hfront] at hzero
      have : valueOf ['0'] = 0 := by decide
      omega

lemma ofDigits_lt {ds : List Nat} (hds : ∀ d ∈ ds, d < 10) : ofDigits ds < 10 ^ ds.length := by
  have hfold : ∀ n, ds.foldl (fun n d => 10 * n + d) n < 10 ^ ds.length * (n + 1) := by
    induction ds with
    | nil => intro n; simp
    | cons d ds ih =>
      intro n
      have hd := hds d List.mem_cons_self
      rw [List.foldl_cons, List.length_cons]
      calc ds.foldl (fun n d => 10 * n + d) (10 * n + d)
          < 10 ^ ds.length * (10 * n + d + 1) :=
            ih (fun d hd => hds d (List.mem_cons_of_mem _ hd)) _
        _ ≤ 10 ^ ds.length * (10 * (n + 1)) := Nat.mul_le_mul_left _ (by omega)
        _ = 10 ^ (ds.length + 1) * (n + 1) := by rw [Nat.pow_succ, Nat.mul_assoc]
  simpa [ofDigits] using hfold 0

/-- A run of digits denotes a number of no more digits. -/
lemma valueOf_lt {length : Nat} (hlength : digits.length ≤ length) :
    valueOf digits < 10 ^ length := by
  have hds : ∀ d ∈ digits.filterMap asciiDigit?, d < 10 := by
    intro d hd
    obtain ⟨c, -, hc⟩ := List.mem_filterMap.1 hd
    exact asciiDigit?_lt hc
  refine (ofDigits_lt hds).trans_le (Nat.pow_le_pow_right (by decide) ?_)
  exact (List.length_filterMap_le _ _).trans hlength

lemma isWritable_signed {m : Nat} (hm : m < 10 ^ maxDigits) (negative : Bool) :
    isWritable (if negative then -(m : Int) else m) = true := by
  rw [isWritable, decide_eq_true_eq]
  cases negative <;> simpa using hm

/-- An integer nearer to zero has no more digits. -/
lemma isWritable_mono {m n : Int} (hm : isWritable m = true) (hn : n.natAbs ≤ m.natAbs) :
    isWritable n = true := by
  rw [isWritable, decide_eq_true_eq] at hm ⊢
  exact hn.trans_lt hm

/-- Integers of eight bytes have few digits. -/
lemma isWritable_of_le (hn : n.natAbs ≤ 2 ^ 64) : isWritable n = true := by
  rw [isWritable, decide_eq_true_eq]
  calc n.natAbs ≤ 2 ^ 64 := hn
    _ < 10 ^ 20 := by decide
    _ ≤ 10 ^ maxDigits := Nat.pow_le_pow_right (by decide) (by decide)

/-- A run of digits is spanned as a whole. -/
lemma span_isAsciiDigit (hcs : ∀ c ∈ cs, isAsciiDigit c = true) :
    cs.span isAsciiDigit = (cs, []) := by
  have htake : cs.takeWhile isAsciiDigit = cs := List.takeWhile_eq_self_iff.2 hcs
  have hdrop : cs.dropWhile isAsciiDigit = [] := List.dropWhile_eq_nil_iff.2 hcs
  rw [List.span_eq_takeWhile_dropWhile, htake, hdrop]

/-! ## Readers of integers -/

namespace Numeral

lemma isWritable_of_unsigned (hread : unsigned negative cs = .value n) : isWritable n = true := by
  rw [unsigned] at hread
  dsimp only at hread
  split at hread
  · cases hread
  · cases hread
  · split at hread
    · cases hread
    · rename_i hlength
      split at hread
      · cases hread
      · obtain rfl := Numeral.value.inj hread
        exact isWritable_signed (valueOf_lt (not_lt.1 hlength)) negative

lemma isWritable_of_plain (hread : plain cs = .value n) : isWritable n = true := by
  unfold plain at hread
  split at hread
  · exact isWritable_of_unsigned hread
  · exact isWritable_of_unsigned hread

/-- No text reads as an integer of too many digits. -/
lemma isWritable_of_read {s : String} (hread : read s = .value n) : isWritable n = true := by
  rw [read] at hread
  split at hread
  · split at hread
    · rename_i hclean
      obtain ⟨cs, -, hcs⟩ := Option.map_eq_some_iff.1 hclean
      obtain rfl := Numeral.value.inj hread
      exact isWritable_of_plain hcs
    · cases hread
  · exact isWritable_of_plain hread

end Numeral

end Text

end MerkleLog
